import OperationGate.Project.Sources
import OperationGate.Proofs.Files.Listing
import OperationGate.Proofs.Files.Writing

/-!
# What sources are read

The documents of a project are a function of the tree (`collected`); collecting them changes nothing
(`reads_collectDocuments`). Only files that are picked up count: trees that have the same of them
have the same documents (`collected_congr`).
-/

namespace OperationGate.Sources

/-- The document that a file is. -/
def documentOf (path : String) : FileNode → Except Failure SourceDocument
  | .text source => .ok ⟨path, source⟩
  | _ => .error .io

/-- The documents that some pattern accepts among the files below a directory. -/
def foundBelow (tree : FileTree) (dir : Address) (patterns : List Glob) :
    Except Failure (List SourceDocument) := do
  let docs ← ((candidates tree dir).filter fun c => patterns.any (·.accepts c.1)).mapM fun c =>
    documentOf c.1 c.2
  return docs.mergeSort fun a b => decide (a.path ≤ b.path)

/-- The documents that some pattern accepts below the project. -/
def found (tree : FileTree) (here : Address) (root : Path) (patterns : List Glob) :
    Except Failure (List SourceDocument) :=
  match tree.at? here root with
  | .error _ => .error .io
  | .ok (dir, _) => foundBelow tree dir patterns

/-- The documents of a project. -/
def collected (tree : FileTree) (here : Address) (root : Path) (patterns inline : List String) :
    Except Failure (List SourceDocument) := do
  let globs ← patternsOf patterns
  let docs ← if globs.isEmpty then pure [] else found tree here root globs
  return docs ++ inlineDocuments inline

lemma reads_readFound (path : String) (node : FileNode) (w : Workspace) :
    Work.Reads (readFound path node) w (documentOf path node) := by
  cases node with
  | text source => exact ⟨_, rfl⟩
  | directory => exact ⟨_, rfl⟩
  | binary bytes => exact ⟨_, rfl⟩

lemma reads_findDocuments (root : Path) (patterns : List Glob) (w : Workspace) :
    Work.Reads (findDocuments root patterns) w (found w.tree w.here root patterns) := by
  unfold findDocuments Work.Reads
  rw [Work.run_bind_of_ok (Work.run_get w)]
  unfold found
  cases w.tree.at? w.here root with
  | error f => exact ⟨w.notes, rfl⟩
  | ok e =>
    have hdocs := Work.Reads.mapM (w := w) (fun c notes => reads_readFound c.1 c.2 { w with notes })
      ((candidates w.tree e.1).filter fun c => patterns.any (·.accepts c.1))
    exact hdocs.bind fun docs notes _ => Work.reads_pure _ _

/-- Collecting documents changes nothing. -/
theorem reads_collectDocuments (root : Path) (patterns inline : List String) (w : Workspace) :
    Work.Reads (collectDocuments root patterns inline) w
      (collected w.tree w.here root patterns inline) := by
  have hglobs : Work.Reads (patternsOf patterns : Work (List Glob)) w (patternsOf patterns) :=
    ⟨w.notes, rfl⟩
  refine hglobs.bind fun globs notes _ => ?_
  have hrest : ∀ (docs : List SourceDocument) (v : Workspace),
      Work.Reads (do
        Work.note .info ("collected " ++ toString (docs ++ inlineDocuments inline).length ++
          " graphql documents")
        return docs ++ inlineDocuments inline) v (pure (docs ++ inlineDocuments inline)) :=
    fun docs v => (Work.reads_note _ _ v).bind fun _ _ _ => Work.reads_pure _ _
  split
  · exact (Work.reads_pure [] _).bind fun docs _ _ => hrest docs _
  · exact (reads_findDocuments root globs { w with notes }).bind fun docs _ _ => hrest docs _

/-! ## What is picked up -/

/-- Tells that a file below the project is taken for a document: it is where documents are looked
for, and a pattern accepts its path. -/
def IsPickedUp (patterns : List String) (rest : Address) : Prop :=
  rest.dropLast.any isPassedOver = false ∧
    ∃ text ∈ patterns, ∃ g, Glob.ofString? text = some g ∧ g.accepts (pathBelow rest) = true

lemma not_isPickedUp_of_passedOver {patterns : List String} {rest : Address} {name : String}
    (hname : name ∈ rest.dropLast) (h : isPassedOver name = true) : ¬IsPickedUp patterns rest := by
  rintro ⟨hnone, -⟩
  rw [List.any_eq_false] at hnone
  exact hnone name hname h

lemma exists_of_mem_patternsOf {patterns : List String} {globs : List Glob}
    (h : patternsOf patterns = .ok globs) {g : Glob} (hg : g ∈ globs) :
    ∃ text ∈ patterns, Glob.ofString? text = some g := by
  obtain ⟨text, htext, hof⟩ := exists_of_mem_of_mapM_ok h hg
  refine ⟨text, htext, ?_⟩
  split at hof
  next g' hg' =>
    cases hof
    exact hg'
  next => cases hof

/-- Trees with the same files among those that are picked up have the same documents. -/
lemma found_congr {t u : FileTree} {here : Address} {root : Path} {patterns : List String}
    {globs : List Glob} (hglobs : patternsOf patterns = .ok globs)
    (hat : ∀ dir n, t.at? here root = .ok (dir, n) → ∃ m, u.at? here root = .ok (dir, m))
    (h : ∀ dir n rest, t.at? here root = .ok (dir, n) →
      IsPickedUp patterns rest → ∀ m, m ≠ .directory →
        (t.node? (dir ++ rest) = some m ↔ u.node? (dir ++ rest) = some m))
    {docs : List SourceDocument} (hdocs : found t here root globs = .ok docs) :
    found u here root globs = .ok docs := by
  unfold found at hdocs ⊢
  cases ht : t.at? here root with
  | error f =>
    rw [ht] at hdocs
    cases hdocs
  | ok e =>
    obtain ⟨dir, n⟩ := e
    obtain ⟨m, hu⟩ := hat dir n ht
    rw [ht] at hdocs
    rw [hu]
    change foundBelow t dir globs = .ok docs at hdocs
    change foundBelow u dir globs = .ok docs
    have hsame : ((candidates t dir).filter fun c => globs.any (·.accepts c.1)) =
        (candidates u dir).filter fun c => globs.any (·.accepts c.1) := by
      unfold candidates
      rw [List.filter_map, List.filter_map, List.filter_filter, List.filter_filter]
      refine congrArg _ (FileTree.filter_filesBelow_congr ?_)
      intro rest k hk hne
      rw [Bool.and_eq_true, Bool.not_eq_true', Function.comp_apply, List.any_eq_true] at hk
      obtain ⟨⟨g, hg, haccepts⟩, hpassed⟩ := hk
      obtain ⟨text, htext, hof⟩ := exists_of_mem_patternsOf hglobs hg
      exact h dir n rest ht ⟨hpassed, text, htext, g, hof, haccepts⟩ k hne
    rw [foundBelow, ← hsame]
    exact hdocs

/-- The documents of a project stay as long as the files do that are picked up. -/
theorem collected_congr {t u : FileTree} {here : Address} {root : Path}
    {patterns inline : List String}
    (hat : ∀ dir n, t.at? here root = .ok (dir, n) → ∃ m, u.at? here root = .ok (dir, m))
    (h : ∀ dir n rest, t.at? here root = .ok (dir, n) →
      IsPickedUp patterns rest → ∀ m, m ≠ .directory →
        (t.node? (dir ++ rest) = some m ↔ u.node? (dir ++ rest) = some m))
    {docs : List SourceDocument} (hdocs : collected t here root patterns inline = .ok docs) :
    collected u here root patterns inline = .ok docs := by
  unfold collected at hdocs ⊢
  obtain ⟨globs, hglobs, hdocs⟩ := bind_eq_ok.1 hdocs
  refine bind_eq_ok.2 ⟨globs, hglobs, ?_⟩
  split at hdocs
  next hempty =>
    rw [if_pos hempty]
    exact hdocs
  next hempty =>
    rw [if_neg hempty]
    obtain ⟨docs', hfound, hdocs⟩ := bind_eq_ok.1 hdocs
    exact bind_eq_ok.2 ⟨docs', found_congr hglobs hat h hfound, hdocs⟩

end OperationGate.Sources
