import Mathlib.Data.List.Nodup
import OperationGate.Artifact.Registry
import OperationGate.Artifact.Emission
import OperationGate.Proofs.Files.Writing

/-!
# What emission changes

Emission goes through files one after the other and writes those that a test does not keep
(`Emits`). Afterwards every file can be followed to its place (`Emits.located`), has its text there
unless it was kept (`Emits.node_eq`), and all else is as it was but for directories (`Emits.gains`).

The test looks at a tree that grows from file to file. Where paths lead on and no place is above
another, it decides as it would on the tree that emission starts from (`Emits.report_eq`). The
artifacts of a build are of this kind: each has a text for every library (`exists_renderAll`), and
their places are different ones two names below the build directory (`apart_of_renderAll`).
-/

namespace OperationGate

lemma Workspace.holds_iff {w : Workspace} {p : Path} {s : String} :
    w.holds p s = true ↔ w.read p = .ok s := by
  unfold holds
  cases w.read p with
  | error f => exact ⟨fun h => (nomatch h), fun h => nomatch h⟩
  | ok t => simp

namespace Artifact

/-- Tells that a test keeps a file just if its path leads to something that `fits` it. -/
def IsTest (fits : RenderedFile → FileNode → Bool) (keeps : Workspace → RenderedFile → Bool) :
    Prop :=
  ∀ w f, keeps w f = true ↔ w.tree.locate w.here f.path = .ok (f.path.place w.here) ∧
    ∃ n, w.tree.node? (f.path.place w.here) = some n ∧ fits f n = true

/-- Tells that something is the file with its text. -/
def isRendered (f : RenderedFile) (n : FileNode) : Bool :=
  n = .text f.contents

lemma isTest_holds : IsTest isRendered fun w f => w.holds f.path f.contents := by
  intro w f
  rw [Workspace.holds_iff, Workspace.read, FileTree.read_eq_ok_iff]
  simp [isRendered]

lemma isTest_has : IsTest (fun _ _ => true) fun w f => w.has f.path := by
  intro w f
  change w.tree.has w.here f.path = true ↔ _
  rw [FileTree.has_iff]
  simp

/-- Tells what emission reports and leaves: a file is kept, or it is written before the others. -/
inductive Emits (keeps : Workspace → RenderedFile → Bool) :
    Workspace → List RenderedFile → EmitReport → Workspace → Prop where
  | done (w : Workspace) : Emits keeps w [] ⟨[], []⟩ w
  | keep {w w' : Workspace} {f : RenderedFile} {files : List RenderedFile} {r : EmitReport}
    (h : keeps w f = true) (rest : Emits keeps w files r w') :
    Emits keeps w (f :: files) ⟨r.written, f.path :: r.unchanged⟩ w'
  | write {w w₁ w' : Workspace} {f : RenderedFile} {files : List RenderedFile} {r : EmitReport}
    (h : keeps w f = false) (written : Work.Written w f.path (.text f.contents) w₁)
    (rest : Emits keeps w₁ files r w') :
    Emits keeps w (f :: files) ⟨f.path :: r.written, r.unchanged⟩ w'

variable {keeps : Workspace → RenderedFile → Bool} {fits : RenderedFile → FileNode → Bool}
  {w w₁ w' : Workspace} {f : RenderedFile} {files : List RenderedFile} {r : EmitReport}

/-! ## One file after the other -/

lemma run_writeUnless_eq_ok {report report' : EmitReport}
    (h : (writeUnless keeps report f).run w = (.ok report', w')) :
    (keeps w f = true ∧ report' = ⟨report.written, report.unchanged ++ [f.path]⟩ ∧ w' = w) ∨
      (keeps w f = false ∧ report' = ⟨report.written ++ [f.path], report.unchanged⟩ ∧
        Work.Written w f.path (.text f.contents) w') := by
  unfold writeUnless at h
  rw [Work.run_bind_of_ok (Work.run_get w)] at h
  cases hkeeps : keeps w f with
  | true =>
    rw [hkeeps] at h
    cases h
    exact .inl ⟨rfl, rfl, rfl⟩
  | false =>
    rw [hkeeps] at h
    obtain ⟨⟨⟩, w₁, hwrite, hnote⟩ := Work.run_bind_eq_ok h
    cases hnote
    have htext : FileNode.text f.contents ≠ .directory := by simp
    have hwritten : Work.Written w f.path (.text f.contents) w₁ :=
      Work.written_of_run_writeFile htext hwrite
    exact .inr ⟨rfl, rfl, hwritten.here, hwritten.download, hwritten.located,
      hwritten.node, hwritten.gains, hwritten.above⟩

lemma emits_of_run_foldlM {report report' : EmitReport}
    (h : (files.foldlM (writeUnless keeps) report).run w = (.ok report', w')) :
    ∃ r, Emits keeps w files r w' ∧
      report' = ⟨report.written ++ r.written, report.unchanged ++ r.unchanged⟩ := by
  induction files generalizing w report with
  | nil =>
    cases h
    exact ⟨_, .done _, by simp⟩
  | cons f files ih =>
    rw [List.foldlM_cons] at h
    obtain ⟨report₁, w₁, hf, h⟩ := Work.run_bind_eq_ok h
    obtain ⟨r, hr, rfl⟩ := ih h
    rcases run_writeUnless_eq_ok hf with ⟨hkeeps, rfl, rfl⟩ | ⟨hkeeps, rfl, hwritten⟩
    · exact ⟨_, .keep hkeeps hr, by simp⟩
    · exact ⟨_, .write hkeeps hwritten hr, by simp⟩

/-- Emission that succeeds goes through all files. -/
lemma emits_of_run (h : (writeAll keeps files).run w = (.ok r, w')) : Emits keeps w files r w' := by
  obtain ⟨r', hr, rfl⟩ := emits_of_run_foldlM h
  simpa using hr

/-! ## What it leaves -/

lemma Emits.here (h : Emits keeps w files r w') : w'.here = w.here := by
  induction h with
  | done => rfl
  | keep _ _ ih => exact ih
  | write _ written _ ih => rw [ih, written.here]

/-- Only the places of files that are written change. -/
theorem Emits.gains (h : Emits keeps w files r w') :
    w.tree.Gains (r.written.map fun p => p.place w.here) w'.tree := by
  induction h with
  | done => exact .refl _ _
  | keep _ _ ih => exact ih
  | write _ written _ ih =>
    rw [written.here] at ih
    rw [List.map_cons]
    exact (written.gains.mono (by simp)).trans (ih.mono fun a ha => List.mem_cons_of_mem _ ha)

lemma Emits.written_sublist (h : Emits keeps w files r w') :
    r.written.Sublist (files.map (·.path)) := by
  induction h with
  | done => exact .slnil
  | keep _ _ ih => exact .cons _ ih
  | write _ _ _ ih => exact .cons_cons _ ih

/-- Every file can be followed to its place afterwards. -/
theorem Emits.located (htest : IsTest fits keeps) (h : Emits keeps w files r w') :
    ∀ f ∈ files, w'.tree.locate w.here f.path = .ok (f.path.place w.here) := by
  induction h with
  | done => simp
  | keep hkeeps rest ih =>
    rw [List.forall_mem_cons]
    exact ⟨FileTree.locate_of_keepsDirectories rest.gains.directories ((htest _ _).1 hkeeps).1, ih⟩
  | write _ written rest ih =>
    rw [List.forall_mem_cons]
    rw [written.here] at ih
    exact ⟨FileTree.locate_of_keepsDirectories rest.gains.directories written.located, ih⟩

/-- Every file is in its place afterwards: with its text, or as something that was kept. -/
lemma Emits.exists_node (htest : IsTest fits keeps) (h : Emits keeps w files r w')
    (hplaces : (files.map fun f => f.path.place w.here).Nodup) :
    ∀ f ∈ files, ∃ n, w'.tree.node? (f.path.place w.here) = some n ∧
      (n = .text f.contents ∨ fits f n = true ∧ f.path ∈ r.unchanged) := by
  have hstays : ∀ {v : Workspace} {f : RenderedFile} {files : List RenderedFile} {r : EmitReport}
      {n : FileNode}, v.here = w.here → Emits keeps v files r w' →
      f.path.place w.here ∉ files.map (fun f => f.path.place w.here) →
      v.tree.node? (f.path.place w.here) = some n →
      w'.tree.node? (f.path.place w.here) = some n := by
    intro v f files r n hhere hemits hnot hnode
    refine hemits.gains.kept ?_ hnode
    rw [hhere]
    intro hmem
    apply hnot
    obtain ⟨p, hp, he⟩ := List.mem_map.1 hmem
    obtain ⟨g, hg, rfl⟩ := List.mem_map.1 (hemits.written_sublist.mem hp)
    exact List.mem_map.2 ⟨g, hg, he⟩
  induction h with
  | done => simp
  | keep hkeeps rest ih =>
    rw [List.map_cons, List.nodup_cons] at hplaces
    rw [List.forall_mem_cons]
    obtain ⟨-, n, hnode, hn⟩ := (htest _ _).1 hkeeps
    refine ⟨⟨n, hstays rfl rest hplaces.1 hnode, .inr ⟨hn, List.mem_cons_self⟩⟩, fun f hf => ?_⟩
    obtain ⟨m, hm, hfits⟩ := ih hplaces.2 hstays f hf
    exact ⟨m, hm, hfits.imp_right fun h => ⟨h.1, List.mem_cons_of_mem _ h.2⟩⟩
  | write _ written rest ih =>
    rw [List.map_cons, List.nodup_cons] at hplaces
    rw [List.forall_mem_cons]
    rw [written.here] at ih
    exact ⟨⟨_, hstays written.here rest hplaces.1 written.node, .inl rfl⟩, ih hplaces.2 hstays⟩

/-- Where only files with their texts are kept, every file has its text afterwards. -/
theorem Emits.node_eq (htest : IsTest isRendered keeps) (h : Emits keeps w files r w')
    (hplaces : (files.map fun f => f.path.place w.here).Nodup) (hf : f ∈ files) :
    w'.tree.node? (f.path.place w.here) = some (.text f.contents) := by
  obtain ⟨n, hnode, hn⟩ := h.exists_node htest hplaces f hf
  rw [hnode, hn.elim id fun h => of_decide_eq_true h.1]

/-! ## What it reports -/

/-- Tells that a tree has something at the place of a file that fits it. -/
def isThere (fits : RenderedFile → FileNode → Bool) (t : FileTree) (here : Address)
    (f : RenderedFile) : Bool :=
  (t.node? (f.path.place here)).any (fits f)

/-- What a test says of a tree that grew from another, it says of the other, if the path can be gone
in the end. -/
lemma keeps_eq_isThere {t u : FileTree} {before after : List Address} (htest : IsTest fits keeps)
    (hrooted : t.IsRooted) (hforward : t.IsForward w.here f.path) (hgains : t.Gains before w.tree)
    (habove : t.GainsAbove before w.tree) (hnot : ∀ a ∈ before, ¬f.path.place w.here <+: a)
    (hlast : t.Gains after u) (hlocated : u.locate w.here f.path = .ok (f.path.place w.here)) :
    keeps w f = isThere fits t w.here f := by
  have hnode := hgains.node?_eq habove hnot
  rw [Bool.eq_iff_iff, htest, isThere, hnode, Option.any_eq_true]
  constructor
  · exact fun h => h.2
  · intro h
    refine ⟨?_, h⟩
    by_cases ht : t.locate w.here f.path = .ok (f.path.place w.here)
    · exact FileTree.locate_of_keepsDirectories hgains.directories ht
    · obtain ⟨n, hn, -⟩ := h
      rw [FileTree.node?_place_eq_none hrooted hforward hlast.made hlocated ht] at hn
      cases hn

/-- Emission reports the files by what the tree that it starts from has at their places. -/
lemma Emits.report_eq_of_gains {t : FileTree} {before : List Address} (htest : IsTest fits keeps)
    (h : Emits keeps w files r w') (hrooted : t.IsRooted)
    (hforward : ∀ f ∈ files, t.IsForward w.here f.path)
    (hapart : files.Pairwise fun f g => ¬g.path.place w.here <+: f.path.place w.here)
    (hgains : t.Gains before w.tree) (habove : t.GainsAbove before w.tree)
    (hnot : ∀ f ∈ files, ∀ a ∈ before, ¬f.path.place w.here <+: a) :
    r.written = (files.filter fun f => !isThere fits t w.here f).map (·.path) ∧
      r.unchanged = (files.filter (isThere fits t w.here)).map (·.path) := by
  induction h generalizing before with
  | done => exact ⟨rfl, rfl⟩
  | @keep w w' f files r hkeeps rest ih =>
    rw [List.pairwise_cons] at hapart
    rw [List.forall_mem_cons] at hforward hnot
    have hlast := (hgains.mono fun a ha => List.mem_append_left _ ha).trans
      (rest.gains.mono fun a ha => List.mem_append_right before ha)
    have hlocated := (Emits.keep hkeeps rest).located htest f List.mem_cons_self
    have hthere := keeps_eq_isThere htest hrooted hforward.1 hgains habove hnot.1 hlast hlocated
    rw [hkeeps] at hthere
    obtain ⟨hwritten, hunchanged⟩ := ih hforward.2 hapart.2 hgains habove hnot.2
    simp [← hthere, hwritten, hunchanged]
  | @write w w₁ w' f files r hkeeps written rest ih =>
    rw [List.pairwise_cons] at hapart
    rw [List.forall_mem_cons] at hforward hnot
    have hnext : t.Gains (before ++ [f.path.place w.here]) w₁.tree :=
      (hgains.mono fun a ha => List.mem_append_left _ ha).trans
        (written.gains.mono fun a ha => List.mem_append_right before ha)
    have hlast := (hnext.mono fun a ha => List.mem_append_left _ ha).trans
      (rest.gains.mono fun a ha => List.mem_append_right (before ++ [f.path.place w.here]) ha)
    have hlocated := (Emits.write hkeeps written rest).located htest f List.mem_cons_self
    have hthere := keeps_eq_isThere htest hrooted hforward.1 hgains habove hnot.1 hlast hlocated
    rw [hkeeps] at hthere
    rw [written.here] at ih
    have hnotNext : ∀ g ∈ files, ∀ a ∈ before ++ [f.path.place w.here],
        ¬g.path.place w.here <+: a := by
      intro g hg a ha
      rcases List.mem_append.1 ha with ha | ha
      · exact hnot.2 g hg a ha
      · exact List.mem_singleton.1 ha ▸ hapart.1 g hg
    obtain ⟨hwritten, hunchanged⟩ := ih hforward.2 hapart.2 hnext
      (habove.trans (written.above (hforward.1.of_gains hgains)) written.gains) hnotNext
    simp [← hthere, hwritten, hunchanged]

/-- Emission reports a file as unchanged or as written by what is at its place before. -/
theorem Emits.report_eq (htest : IsTest fits keeps) (h : Emits keeps w files r w')
    (hrooted : w.tree.IsRooted) (hforward : ∀ f ∈ files, w.tree.IsForward w.here f.path)
    (hapart : files.Pairwise fun f g => ¬g.path.place w.here <+: f.path.place w.here) :
    r.written = (files.filter fun f => !isThere fits w.tree w.here f).map (·.path) ∧
      r.unchanged = (files.filter (isThere fits w.tree w.here)).map (·.path) :=
  h.report_eq_of_gains htest hrooted hforward hapart (.refl [] _) (.refl [] _) (by simp)

/-! ## What changes where files are missing -/

section Change

variable (htest : IsTest fits keeps) (h : Emits keeps w files r w') (hrooted : w.tree.IsRooted)
  (hforward : ∀ f ∈ files, w.tree.IsForward w.here f.path)
  (hapart : files.Pairwise fun f g => ¬g.path.place w.here <+: f.path.place w.here)
include htest h hrooted hforward hapart

omit hapart in
/-- The test says of the tree that emission starts from what is there. -/
lemma Emits.keeps_eq (hf : f ∈ files) : keeps w f = isThere fits w.tree w.here f :=
  keeps_eq_isThere htest hrooted (hforward f hf) (.refl [] _) (.refl [] _) (by simp) h.gains
    (h.located htest f hf)

/-- Emission reports the files by what the test says of the tree that it starts from. -/
lemma Emits.report_eq_keeps : r.written = (files.filter fun f => !keeps w f).map (·.path) ∧
    r.unchanged = (files.filter (keeps w)).map (·.path) := by
  have hkeeps : ∀ f ∈ files, keeps w f = isThere fits w.tree w.here f := fun f hf =>
    h.keeps_eq htest hrooted hforward hf
  obtain ⟨hwritten, hunchanged⟩ := h.report_eq htest hrooted hforward hapart
  rw [hwritten, hunchanged]
  refine ⟨congrArg _ (List.filter_congr fun f hf => ?_),
    congrArg _ (List.filter_congr fun f hf => (hkeeps f hf).symm)⟩
  rw [hkeeps f hf]

/-- What is at no place of a file that is not there is kept. -/
lemma Emits.not_mem_of_isThere {b : Address}
    (hb : ∀ f ∈ files, isThere fits w.tree w.here f = false → b ≠ f.path.place w.here) :
    b ∉ r.written.map fun p => p.place w.here := by
  rw [(h.report_eq htest hrooted hforward hapart).1, List.map_map, List.mem_map]
  rintro ⟨f, hf, rfl⟩
  rw [List.mem_filter, Bool.not_eq_true'] at hf
  exact hb f hf.1 hf.2 rfl

/-- A file that is not there has its text afterwards. -/
lemma Emits.node_of_isThere (hf : f ∈ files) (hthere : isThere fits w.tree w.here f = false) :
    w'.tree.node? (f.path.place w.here) = some (.text f.contents) := by
  have hplaces : (files.map fun f => f.path.place w.here).Nodup := by
    refine List.pairwise_map.2 (hapart.imp ?_)
    intro f g hnot he
    exact hnot (he ▸ List.prefix_refl _)
  obtain ⟨n, hnode, rfl | ⟨-, hunchanged⟩⟩ := h.exists_node htest hplaces f hf
  · exact hnode
  · rw [(h.report_eq htest hrooted hforward hapart).2] at hunchanged
    obtain ⟨g, hg, hpath⟩ := List.mem_map.1 hunchanged
    rw [List.mem_filter] at hg
    obtain rfl : g = f := List.inj_on_of_nodup_map hplaces hg.1 hf (congrArg (·.place w.here) hpath)
    rw [hthere] at hg
    cases hg.2

end Change

lemma run_writeUnless_of_keeps {report : EmitReport} (h : keeps w f = true) :
    (writeUnless keeps report f).run w =
    (.ok ⟨report.written, report.unchanged ++ [f.path]⟩, w) := by
  rw [writeUnless, Work.run_bind_of_ok (Work.run_get w), h]
  rfl

/-- Emission that keeps all files changes nothing. -/
lemma run_writeAll_of_keeps (h : ∀ f ∈ files, keeps w f = true) :
    (writeAll keeps files).run w = (.ok ⟨[], files.map (·.path)⟩, w) := by
  have hfold : ∀ report : EmitReport, (files.foldlM (writeUnless keeps) report).run w =
      (.ok ⟨report.written, report.unchanged ++ files.map (·.path)⟩, w) := by
    induction files with
    | nil =>
      intro report
      rw [List.map_nil, List.append_nil]
      rfl
    | cons f files ih =>
      intro report
      rw [List.forall_mem_cons] at h
      rw [List.foldlM_cons, Work.run_bind_of_ok (run_writeUnless_of_keeps h.1), ih h.2,
        List.map_cons, List.append_assoc]
      rfl
  exact hfold ⟨[], []⟩

/-! ## Where it succeeds -/

/-- Tells that a path can be gone and leads to no directory. -/
def IsFree (t : FileTree) (here : Address) (p : Path) : Prop :=
  ∃ a, t.locate here p = .ok a ∧ t.node? a ≠ some .directory

lemma IsFree.put {t : FileTree} {here a : Address} {p : Path} {s : String} (h : IsFree t here p)
    (ha : t.node? a ≠ some .directory) : IsFree (t.put a (.text s)) here p := by
  obtain ⟨b, hlocate, hb⟩ := h
  have hgains := @FileTree.gains_put_file t a (.text s) (by simp) ha
  refine ⟨b, FileTree.locate_of_keepsDirectories hgains.directories hlocate, ?_⟩
  rw [FileTree.node?_put (by rintro rfl; exact ha rfl)]
  split
  · simp
  · exact hb

lemma exists_run_writeUnless (report : EmitReport) (h : IsFree w.tree w.here f.path) :
    ∃ report' w', (writeUnless keeps report f).run w = (.ok report', w') ∧
      ∀ p, IsFree w.tree w.here p → IsFree w'.tree w'.here p := by
  unfold writeUnless
  rw [Work.run_bind_of_ok (Work.run_get w)]
  cases keeps w f with
  | true => exact ⟨_, w, rfl, fun p hp => hp⟩
  | false =>
    obtain ⟨a, hlocate, ha⟩ := h
    exact ⟨_, _, Work.run_bind_of_ok (Work.run_writeFile_of_locate hlocate ha),
      fun p hp => hp.put ha⟩

/-- Emission succeeds where the paths of all files can be gone and lead to no directories. -/
lemma exists_run_writeAll (h : ∀ f ∈ files, IsFree w.tree w.here f.path) :
    ∃ r w', (writeAll keeps files).run w = (.ok r, w') := by
  have hfold : ∀ report : EmitReport, ∃ r w', (files.foldlM (writeUnless keeps) report).run w =
      (.ok r, w') := by
    induction files generalizing w with
    | nil => exact fun report => ⟨report, w, rfl⟩
    | cons f files ih =>
      intro report
      rw [List.forall_mem_cons] at h
      obtain ⟨report', w₁, hf, hfree⟩ := exists_run_writeUnless report h.1
      obtain ⟨r, w', hrest⟩ := ih (fun g hg => hfree g.path (h.2 g hg)) report'
      rw [List.foldlM_cons]
      exact ⟨r, w', (Work.run_bind_of_ok hf).trans hrest⟩
  exact hfold ⟨[], []⟩

lemma ignoresNotes_writeAll (hkeeps : ∀ w notes, keeps { w with notes } = keeps w)
    (files : List RenderedFile) : Work.IgnoresNotes (writeAll keeps files) := by
  refine .foldlM (fun report f => ?_) files _
  refine Work.ignoresNotes_get_bind (fun w notes => by rw [hkeeps]) fun w => ?_
  cases keeps w f with
  | true => exact Work.ignoresNotes_pure _
  | false =>
    refine (Work.ignoresNotes_writeFile _ _).bind fun _ => ?_
    exact (Work.ignoresNotes_note _ _).bind fun _ => Work.ignoresNotes_pure _

/-! ## The artifacts of a build -/

lemma map_pieces_registry : (registry.map fun a => (Path.mk a.path).pieces) =
    [["graphql-operations", "index.d.ts"], ["graphql-operations", "index.js"],
      ["graphql-middleware", "operation-types.d.ts"], ["graphql-middleware", "response.d.ts"],
      ["graphql-middleware", "documents.json"], ["graphql-middleware", "sources.js"],
      ["graphql-middleware", "endpoints.js"], ["graphql-middleware", "client-options.js"],
      ["graphql-middleware", "server-options.js"], ["graphql-middleware", "helpers.js"]] := by
  decide +kernel

lemma path_registry : ∀ a ∈ registry, (Path.mk a.path).isAbsolute = false ∧
    FileTree.pathFault? ⟨a.path⟩ = none ∧ a.path.utf8ByteSize ≤ 64 := by
  decide +kernel

/-- The parts of the path of an artifact are two names. -/
lemma pieces_of_mem_registry {a : Artifact} (ha : a ∈ registry) :
    (Path.mk a.path).pieces.length = 2 ∧ ∀ s ∈ (Path.mk a.path).pieces, Path.IsName s := by
  have hmem := List.mem_map_of_mem (f := fun a : Artifact => (Path.mk a.path).pieces) ha
  rw [map_pieces_registry] at hmem
  revert hmem
  generalize (Path.mk a.path).pieces = pieces
  revert pieces
  decide +kernel

lemma nodup_pieces_registry : (registry.map fun a => (Path.mk a.path).pieces).Nodup := by
  rw [map_pieces_registry]
  decide +kernel

lemma steps_of_mem_registry {a : Artifact} (ha : a ∈ registry) :
    (Path.mk a.path).steps = (Path.mk a.path).pieces.map .name :=
  Path.steps_of_names (pieces_of_mem_registry ha).2

variable {lib : TypeLibrary} {l : Layout}

/-- Every artifact of a build has a text. -/
theorem exists_renderAll (lib : TypeLibrary) (l : Layout) :
    ∃ files, renderAll registry lib l = .ok files := by
  apply exists_mapM_eq_ok_iff.2
  have hrender : ∀ a ∈ registry, ∃ s, a.render lib l = .ok s := by
    simp only [registry, List.forall_mem_cons, List.not_mem_nil, false_imp_iff,
      implies_true, and_true]
    refine ⟨?_, ?_, ?_, ?_, ?_, ?_, ?_, ?_, ?_, ?_⟩ <;> exact ⟨_, rfl⟩
  intro a ha
  obtain ⟨s, hs⟩ := hrender a ha
  exact ⟨⟨l.place a.path, s⟩, bind_eq_ok.2 ⟨s, hs, rfl⟩⟩

lemma map_path_of_renderAll {artifacts : List Artifact}
    (h : renderAll artifacts lib l = .ok files) :
    files.map (·.path) = artifacts.map fun a => l.place a.path := by
  have hfiles := mapM_eq_ok_iff.1 h
  clear h
  induction hfiles with
  | nil => rfl
  | cons hmade _ ih =>
    obtain ⟨s, -, he⟩ := bind_eq_ok.1 hmade
    cases he
    rw [List.map_cons, List.map_cons, ih]

lemma run_emit {artifacts : List Artifact} (h : renderAll artifacts lib l = .ok files)
    (w : Workspace) :
    (emit artifacts lib l).run w =
    (writeAll (fun w f => w.holds f.path f.contents) files).run w := by
  rw [emit, h]
  exact Work.run_bind_of_ok rfl

lemma run_emitPlaceholders {artifacts : List Artifact}
    (h : renderAll artifacts .empty l = .ok files) (w : Workspace) :
    (emitPlaceholders artifacts l).run w = (writeAll (fun w f => w.has f.path) files).run w := by
  rw [emitPlaceholders, h]
  exact Work.run_bind_of_ok rfl

/-- Emission of artifacts succeeds where their paths can be gone and lead to no directories,
whatever their texts are. -/
lemma exists_run_writeAll_of_renderAll {artifacts : List Artifact}
    (hfiles : renderAll artifacts lib l = .ok files)
    (h : ∀ a ∈ artifacts, IsFree w.tree w.here (l.place a.path)) :
    ∃ r w', (writeAll keeps files).run w = (.ok r, w') := by
  have hpaths : ∀ p ∈ files.map (·.path), IsFree w.tree w.here p := by
    rw [map_path_of_renderAll hfiles]
    intro p hp
    obtain ⟨a, ha, rfl⟩ := List.mem_map.1 hp
    exact h a ha
  exact exists_run_writeAll fun f hf => hpaths f.path (List.mem_map_of_mem hf)

/-- The artifacts are below the build directory. -/
lemma place_of_mem_registry {a : Artifact} (ha : a ∈ registry) (l : Layout) (here : Address) :
    (l.place a.path).place here = l.buildDir.place here ++ (Path.mk a.path).pieces := by
  rw [Layout.place, Path.place_join (path_registry a ha).1, steps_of_mem_registry ha,
    FileTree.foldl_follow_names]

lemma isForward_of_mem_registry {a : Artifact} (ha : a ∈ registry) {t : FileTree} {here : Address}
    (h : t.IsForward here l.buildDir) : t.IsForward here (l.place a.path) := by
  refine h.join (path_registry a ha).1 ?_
  rw [steps_of_mem_registry ha]
  simp

/-- Where the directories of the artifacts are there, their paths can be gone. -/
lemma isFree_of_mem_registry {a : Artifact} (ha : a ∈ registry) {t : FileTree} {here b : Address}
    (hbuild : t.locate here l.buildDir = .ok b) (hsize : l.buildDir.text.utf8ByteSize ≤ 4000)
    (hdirs : ∀ k < (Path.mk a.path).pieces.length,
      t.node? (b ++ (Path.mk a.path).pieces.take k) = some .directory)
    (hfile : t.node? (b ++ (Path.mk a.path).pieces) ≠ some .directory) :
    IsFree t here (l.place a.path) := by
  obtain ⟨hrelative, hfault, hlength⟩ := path_registry a ha
  obtain ⟨hnone, htext, -⟩ := FileTree.locate_eq_ok_iff.1 hbuild
  have hjoin : FileTree.pathFault? (l.place a.path) = none := by
    apply FileTree.pathFault?_join hnone hfault hrelative htext
    change l.buildDir.text.utf8ByteSize + 1 + a.path.utf8ByteSize ≤ 4095
    omega
  refine ⟨_, ?_, hfile⟩
  rw [Layout.place, FileTree.locate_join hrelative hjoin hbuild]
  exact FileTree.foldlM_enter_of_names (pieces_of_mem_registry ha).2 hdirs

lemma isForward_of_renderAll (h : renderAll registry lib l = .ok files) {t : FileTree}
    {here : Address} (hforward : t.IsForward here l.buildDir) :
    ∀ f ∈ files, t.IsForward here f.path := by
  have hpaths : ∀ p ∈ files.map (·.path), t.IsForward here p := by
    rw [map_path_of_renderAll h]
    intro p hp
    obtain ⟨a, ha, rfl⟩ := List.mem_map.1 hp
    exact isForward_of_mem_registry ha hforward
  exact fun f hf => hpaths f.path (List.mem_map.2 ⟨f, hf, rfl⟩)

/-- No artifact is at the place of another or below it. -/
theorem apart_of_renderAll (h : renderAll registry lib l = .ok files) (here : Address) :
    files.Pairwise fun f g => ¬g.path.place here <+: f.path.place here := by
  have hpaths : (files.map (·.path)).Pairwise fun p q => ¬q.place here <+: p.place here := by
    rw [map_path_of_renderAll h, List.pairwise_map]
    refine List.Pairwise.imp_of_mem ?_ (List.pairwise_map.1 nodup_pieces_registry)
    intro a b ha hb hne hle
    rw [place_of_mem_registry ha, place_of_mem_registry hb, List.prefix_append_right_inj] at hle
    have hlength : (Path.mk b.path).pieces.length = (Path.mk a.path).pieces.length :=
      (pieces_of_mem_registry hb).1.trans (pieces_of_mem_registry ha).1.symm
    exact hne (hle.eq_of_length hlength).symm
  exact List.pairwise_map.1 hpaths

lemma nodup_places_of_renderAll (h : renderAll registry lib l = .ok files) (here : Address) :
    (files.map fun f => f.path.place here).Nodup := by
  refine List.pairwise_map.2 ((apart_of_renderAll h here).imp ?_)
  intro f g hnot he
  exact hnot (he ▸ List.prefix_refl _)

end Artifact

end OperationGate
