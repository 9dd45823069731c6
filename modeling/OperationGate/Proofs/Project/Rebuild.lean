import OperationGate.Proofs.Catalogue.Acceptance
import OperationGate.Proofs.Project.Plan

/-!
# Building again

A build reads the schema and the documents, and writes artifacts. Where no artifact is taken for a
document or for the schema, the next build reads the same, so it plans the same
(`plan_eq_of_gains`), finds all artifacts with their texts, and leaves everything as it is
(`run_of_run`). In the usual build directory no artifact is taken for a document, since its name is
one of those that are passed over (`picksUpNoArtifact_of_hidden`).
-/

namespace OperationGate.Build

open Artifact (registry renderAll)

variable {c : ProjectConfig} {w w' : Workspace} {lib : TypeLibrary}

/-- Tells that no artifact of a build is where documents are found. -/
def PicksUpNoArtifact (c : ProjectConfig) (w : Workspace) : Prop :=
  ∀ dir n rest, w.tree.at? w.here c.root = .ok (dir, n) → Sources.IsPickedUp c.patterns rest →
    ∀ a ∈ registry, ((Layout.ofConfig c).place a.path).place w.here ≠ dir ++ rest

/-- In the usual build directory no artifact is taken for a document. -/
theorem picksUpNoArtifact_of_hidden (h : c.buildDir = c.root.join ⟨".graphql-middleware"⟩)
    (w : Workspace) : PicksUpNoArtifact c w := by
  intro dir n rest hroot hpicked a ha hplace
  obtain ⟨hlocate, -⟩ := FileTree.at?_eq_ok_iff.1 hroot
  obtain rfl := FileTree.eq_place_of_locate hlocate
  have hsteps : (Path.mk ".graphql-middleware").steps = [.name ".graphql-middleware"] := rfl
  have hbuild : (Layout.ofConfig c).buildDir.place w.here =
      c.root.place w.here ++ [".graphql-middleware"] := by
    rw [show (Layout.ofConfig c).buildDir = c.buildDir from rfl, h, Path.place_join (rfl), hsteps]
    rfl
  rw [Artifact.place_of_mem_registry ha, hbuild, List.append_assoc] at hplace
  obtain rfl := List.append_cancel_left hplace
  have hmem : ".graphql-middleware" ∈ ([".graphql-middleware"] ++
      (Path.mk a.path).pieces).dropLast := by
    rw [List.singleton_append, List.dropLast_cons_of_ne_nil (Path.pieces_ne_nil _)]
    exact List.mem_cons_self
  exact Sources.not_isPickedUp_of_passedOver hmem (rfl) hpicked

/-- What is read stays where neither the schema nor a document is written. -/
theorem plan_eq_of_gains {u : FileTree} {places : List Address} {lib : TypeLibrary}
    (hplan : plan c w.tree w.here = .artifacts lib) (hgains : w.tree.Gains places u)
    (hdocs : ∀ dir n rest, w.tree.at? w.here c.root = .ok (dir, n) →
      Sources.IsPickedUp c.patterns rest → dir ++ rest ∉ places)
    (hschema : c.schemaPath.place w.here ∉ places) : plan c u w.here = .artifacts lib := by
  obtain ⟨hissue, s, hs, hlib⟩ := plan_eq_artifacts_iff.1 hplan
  refine plan_eq_artifacts_iff.2 ⟨hissue, s, ?_, ?_⟩
  · obtain ⟨sdl, hread, hparse⟩ := schemaOf_eq_ok_iff.1 hs
    refine schemaOf_eq_ok_iff.2 ⟨sdl, ?_, hparse⟩
    obtain ⟨hlocate, hnode⟩ := FileTree.read_eq_ok_iff.1 hread
    exact FileTree.read_eq_ok_iff.2
      ⟨FileTree.locate_of_keepsDirectories hgains.directories hlocate, hgains.kept hschema hnode⟩
  · obtain ⟨docs, hof, hmade⟩ := bind_eq_ok.1 hlib
    refine bind_eq_ok.2 ⟨docs, ?_, hmade⟩
    obtain ⟨all, hall, hfilter⟩ := bind_eq_ok.1 hof
    refine bind_eq_ok.2 ⟨all, Sources.collected_congr ?_ ?_ hall, hfilter⟩
    · intro dir n hroot
      obtain ⟨hlocate, hnode⟩ := FileTree.at?_eq_ok_iff.1 hroot
      cases hu : u.node? dir with
      | none =>
        rw [hgains.missing hu] at hnode
        cases hnode
      | some m => exact ⟨m,
          FileTree.at?_eq_ok_iff.2
            ⟨FileTree.locate_of_keepsDirectories hgains.directories hlocate, hu⟩⟩
    · intro dir n rest hroot hpicked m hm
      have hnot := hdocs dir n rest hroot hpicked
      constructor
      · exact hgains.kept hnot
      · intro hu
        cases ht : w.tree.node? (dir ++ rest) with
        | none => exact absurd (hgains.added hnot ht hu) hm
        | some k => rw [← hu, hgains.kept hnot ht]

/-- Emission that found all artifacts with their texts has nothing to write. -/
lemma run_emit_of_emits {files : List RenderedFile} {r : EmitReport} {l : Layout}
    (hfiles : renderAll registry lib l = .ok files)
    (h : Artifact.Emits (fun w f => w.holds f.path f.contents) w files r w') (notes : List Note) :
    (Artifact.emit registry lib l).run { w' with notes } =
      (.ok ⟨[], registry.map fun a => l.place a.path⟩, { w' with notes }) := by
  have htest := Artifact.isTest_holds
  have hnodes := fun f (hf : f ∈ files) =>
    h.node_eq htest (Artifact.nodup_places_of_renderAll hfiles w.here) hf
  have hholds : ∀ f ∈ files, ({ w' with notes } : Workspace).holds f.path f.contents = true := by
    intro f hf
    rw [Workspace.holds_iff, Workspace.read, FileTree.read_eq_ok_iff]
    change w'.tree.locate w'.here f.path = .ok (f.path.place w'.here) ∧
      w'.tree.node? (f.path.place w'.here) = some (.text f.contents)
    rw [h.here]
    exact ⟨h.located htest f hf, hnodes f hf⟩
  rw [Artifact.run_emit hfiles, Artifact.run_writeAll_of_keeps hholds,
    Artifact.map_path_of_renderAll hfiles]

/-- A build after one that succeeded finds everything as it is: no artifact is written and nothing
changes, where no artifact is taken for a document or for the schema. The first holds in the usual
build directory. -/
theorem run_of_run (hurl : c.schemaUrl = none) :
    (c.buildDir = c.root.join ⟨".graphql-middleware"⟩ → PicksUpNoArtifact c w) ∧
    ∀ report w', PicksUpNoArtifact c w →
      (∀ a ∈ registry, ((Layout.ofConfig c).place a.path).place w.here ≠
        c.schemaPath.place w.here) →
      (run c).run w = (.ok report, w') →
      ∃ notes, (run c).run w' =
        (.ok ⟨report.operations, ⟨[], registry.map fun a => (Layout.ofConfig c).place a.path⟩⟩,
          { w' with notes }) := by
  refine ⟨fun h => picksUpNoArtifact_of_hidden h w, fun report w' hdocs hschema h => ?_⟩
  rcases hemission : ((plan c w.tree w.here).emission (Layout.ofConfig c)).run w with ⟨emitted, v⟩
  obtain ⟨notes, hrun⟩ := exists_run_eq hurl hemission
  obtain ⟨houtcome, rfl⟩ := Prod.mk.inj (h.symm.trans hrun)
  obtain ⟨lib, r, hplan, rfl, rfl⟩ := outcome_eq_ok_iff.1 houtcome.symm
  obtain ⟨files, hfiles⟩ := Artifact.exists_renderAll lib (Layout.ofConfig c)
  rw [hplan, Plan.emission, Artifact.run_emit hfiles] at hemission
  have hemits := Artifact.emits_of_run hemission
  -- Only places of artifacts are written.
  have hplaces : ∀ b ∈ r.written.map fun p => p.place w.here,
      ∃ a ∈ registry, ((Layout.ofConfig c).place a.path).place w.here = b := by
    intro b hb
    obtain ⟨p, hp, rfl⟩ := List.mem_map.1 hb
    have hpath := hemits.written_sublist.mem hp
    rw [Artifact.map_path_of_renderAll hfiles] at hpath
    obtain ⟨a, ha, rfl⟩ := List.mem_map.1 hpath
    exact ⟨a, ha, rfl⟩
  have hagain : plan c v.tree v.here = .artifacts lib := by
    rw [hemits.here]
    refine plan_eq_of_gains hplan hemits.gains ?_ ?_
    · intro dir n rest hroot hpicked hmem
      obtain ⟨a, ha, he⟩ := hplaces _ hmem
      exact hdocs dir n rest hroot hpicked a ha he
    · intro hmem
      obtain ⟨a, ha, he⟩ := hplaces _ hmem
      exact hschema a ha he
  have hsame : ((plan c v.tree v.here).emission (Layout.ofConfig c)).run { v with notes } =
      (.ok ⟨[], registry.map fun a => (Layout.ofConfig c).place a.path⟩, { v with notes }) := by
    rw [hagain]
    exact run_emit_of_emits hfiles hemits notes
  obtain ⟨notes', hrebuild⟩ := exists_run_eq (w := { v with notes }) hurl hsame
  rw [show plan c ({ v with notes } : Workspace).tree ({ v with notes } : Workspace).here =
    .artifacts lib from hagain] at hrebuild
  exact ⟨notes', hrebuild⟩

/-! ## A project that is built twice -/

/-- The files of a project with a schema and a document, by their names. -/
def smallFiles : List (String × String) :=
  [("a.graphql", "query q \x7b a \x7d"), ("schema.graphql", "type Query \x7b a: Int \x7d")]

/-- These files, and directories for the artifacts. -/
def smallTree : FileTree :=
  ((((FileTree.empty.put [".graphql-middleware"] .directory).put [".graphql-middleware",
    "graphql-middleware"]
    .directory).put [".graphql-middleware", "graphql-operations"] .directory).put ["a.graphql"]
    (.text "query q \x7b a \x7d")).put ["schema.graphql"] (.text "type Query \x7b a: Int \x7d")

/-- The project. -/
def smallProject : Workspace :=
  .ofTree smallTree []

/-- Its settings, all else as usual. -/
def smallConfig : ProjectConfig :=
  .new "https://api.example.com/graphql" ⟨"."⟩

/-- Its document. -/
def smallDocument : SourceDocument :=
  ⟨"a.graphql", "query q \x7b a \x7d"⟩

/-- The types of its schema. -/
def smallTypes : List SchemaType :=
  [.bare "Boolean" .scalar none, .bare "Float" .scalar none, .bare "ID" .scalar none,
    .bare "Int" .scalar none,
    { SchemaType.bare "Query" .object none with fields := [⟨"a", .named "Int", [], none⟩] },
    .bare "String" .scalar none]

lemma schemaOf_smallProject :
    schemaOf smallConfig smallTree [] = .ok (Catalogue.schemaOf smallTypes) := by
  have hread : Schema.Parser.read? "type Query \x7b a: Int \x7d" =
      some [.type "Query" none (.object [] [⟨"a", .named "Int", [], none⟩])] := by
    cbv
  have hsdl : smallTree.read [] smallConfig.schemaPath = .ok "type Query \x7b a: Int \x7d" := by
    rw [FileTree.read_eq_ok_iff]
    decide
  refine schemaOf_eq_ok_iff.2 ⟨_, hsdl, ?_⟩
  rw [Schema.parse, hread]
  rfl

lemma candidates_smallTree :
    Sources.candidates smallTree [] = smallFiles.map fun f => (f.1, .text f.2) := by
  have hbelow : smallTree.below [] = smallFiles.map fun f => ([f.1], .text f.2) := rfl
  have hfiles : smallTree.filesBelow [] = smallFiles.map fun f => ([f.1], .text f.2) := by
    rw [FileTree.filesBelow, hbelow]
    exact List.mergeSort_of_pairwise (by decide)
  rw [Sources.candidates, hfiles]
  rfl

lemma exists_patternsOf_smallConfig :
    ∃ globs, Sources.patternsOf smallConfig.patterns = .ok globs ∧ globs.isEmpty = false ∧
      ∀ f ∈ smallFiles, globs.any (·.accepts f.1) = true := by
  have hall : (Sources.patternsOf smallConfig.patterns).toOption.any (fun globs =>
      !globs.isEmpty && smallFiles.all fun f => globs.any (·.accepts f.1)) = true := by
    decide +kernel
  cases hglobs : Sources.patternsOf smallConfig.patterns with
  | error f =>
    rw [hglobs] at hall
    cases hall
  | ok globs =>
    rw [hglobs, Except.toOption, Option.any_some, Bool.and_eq_true, Bool.not_eq_true',
      List.all_eq_true] at hall
    exact ⟨globs, rfl, hall⟩

/-- Both files are found, and the one with the schema is left out. -/
lemma documentsOf_smallProject : documentsOf smallConfig smallTree [] = .ok [smallDocument] := by
  obtain ⟨globs, hglobs, hsome, haccepts⟩ := exists_patternsOf_smallConfig
  have hroot : smallTree.at? [] smallConfig.root = .ok ([], .directory) := by
    rw [FileTree.at?_eq_ok_iff]
    decide
  have hbelow : Sources.foundBelow smallTree [] globs =
      .ok (smallFiles.map fun f => ⟨f.1, f.2⟩) := by
    have hall : (smallFiles.map fun f => (f.1, FileNode.text f.2)).filter
        (fun c => globs.any (·.accepts c.1)) = smallFiles.map fun f => (f.1, .text f.2) := by
      rw [List.filter_eq_self]
      intro c hc
      obtain ⟨f, hf, rfl⟩ := List.mem_map.1 hc
      exact haccepts f hf
    rw [Sources.foundBelow, candidates_smallTree, hall]
    refine congrArg Except.ok (List.mergeSort_of_pairwise ?_)
    decide
  have hcollected : Sources.collected smallTree [] smallConfig.root smallConfig.patterns
      smallConfig.inlineDocuments = .ok (smallFiles.map fun f => ⟨f.1, f.2⟩) := by
    have hfound : Sources.found smallTree [] smallConfig.root globs =
        .ok (smallFiles.map fun f => ⟨f.1, f.2⟩) := by
      rw [Sources.found, hroot]
      exact hbelow
    refine bind_eq_ok.2 ⟨globs, hglobs, ?_⟩
    rw [if_neg (by simp [hsome])]
    exact bind_eq_ok.2 ⟨_, hfound, rfl⟩
  rw [documentsOf, hcollected]
  refine congrArg Except.ok ?_
  rfl

lemma exists_libraryOf_smallProject :
    ∃ lib, libraryOf smallConfig smallTree [] (Catalogue.schemaOf smallTypes) = .ok lib ∧
      lib.operations.length = 1 := by
  have hread : Document.read? smallDocument.source =
      some [.operation ⟨.query, some "q", [], [], [.field none "a" [] [] []]⟩] := by
    cbv
  have hcatalogue : (Catalogue.ofDocuments (Catalogue.schemaOf smallTypes) (some smallConfig.root)
      [smallDocument]).map (·.operations.length) = .ok 1 := by
    rw [Catalogue.ofDocuments_singleton hread]
    generalize reportedPath smallDocument.path (some smallConfig.root) = file
    cbv
  obtain ⟨c, hc, hlength⟩ := map_eq_ok.1 hcatalogue
  refine ⟨.ofCatalogue (Catalogue.schemaOf smallTypes) smallConfig.scalars c, ?_, hlength⟩
  exact bind_eq_ok.2 ⟨[smallDocument], documentsOf_smallProject, bind_eq_ok.2 ⟨c, hc, rfl⟩⟩

theorem run_of_run_sample :
    ∃ report w' notes, (run smallConfig).run smallProject = (.ok report, w') ∧
    report.operations = 1 ∧ (run smallConfig).run w' =
      (.ok ⟨1, ⟨[], registry.map fun a => (Layout.ofConfig smallConfig).place a.path⟩⟩,
        { w' with notes }) := by
  have hbuild : smallTree.locate [] (Layout.ofConfig smallConfig).buildDir =
      .ok [".graphql-middleware"] := by
    rfl
  have hthere : ∀ pieces ∈ registry.map fun a => (Path.mk a.path).pieces,
      (∀ k < pieces.length, smallTree.node? ([".graphql-middleware"] ++ pieces.take k) =
        some .directory) ∧ smallTree.node? ([".graphql-middleware"] ++ pieces) ≠ some .directory ∧
        [".graphql-middleware"] ++ pieces ≠ smallConfig.schemaPath.place [] := by
    rw [Artifact.map_pieces_registry]
    decide
  have hfree : ∀ a ∈ registry, Artifact.IsFree smallTree []
      ((Layout.ofConfig smallConfig).place a.path) := by
    intro a ha
    obtain ⟨hdirs, hfile, -⟩ := hthere _ (List.mem_map_of_mem ha)
    exact Artifact.isFree_of_mem_registry ha hbuild (by decide) hdirs hfile
  have hschema : ∀ a ∈ registry,
      ((Layout.ofConfig smallConfig).place a.path).place [] ≠ smallConfig.schemaPath.place [] := by
    intro a ha
    rw [Artifact.place_of_mem_registry ha, ← FileTree.eq_place_of_locate hbuild]
    exact (hthere _ (List.mem_map_of_mem ha)).2.2
  have hissue : smallConfig.issue? = none := rfl
  obtain ⟨lib, hlib, hlength⟩ := exists_libraryOf_smallProject
  have hplan : plan smallConfig smallProject.tree smallProject.here = .artifacts lib :=
    plan_eq_artifacts_iff.2 ⟨hissue, _, schemaOf_smallProject, hlib⟩
  obtain ⟨r, w', hemission⟩ :=
    @exists_run_emission smallProject _ (plan smallConfig smallProject.tree smallProject.here) hfree
  obtain ⟨notes, hrun⟩ := exists_run_eq rfl hemission
  rw [hplan] at hrun
  have hrebuild := @run_of_run smallConfig smallProject rfl
  obtain ⟨notes', hagain⟩ := hrebuild.2 _ _ (hrebuild.1 rfl) hschema hrun
  exact ⟨_, _, notes', hrun, hlength, hlength ▸ hagain⟩

end OperationGate.Build
