import OperationGate.Proofs.Project.Plan

/-!
# What builds change

A build without a download that fails leaves every file as it is, and creates files only for lack of
a schema: the artifacts that are missing, for no operations (`Spares`). One that succeeds leaves the
artifacts with their texts and all other files as they are (`Delivers`). `effect_of_run` says so of
every build.

That a failed build leaves files alone rests on its path to the build directory: where `..` follows
a directory that is not there, making this directory uncovers a file that was not seen
(`exists_overwritten`).
-/

namespace OperationGate.Build

open Artifact (registry renderAll)

variable {c : ProjectConfig} {w w' : Workspace} {report : BuildReport}

/-! ## What is written -/

/-- Tells that every directory and every file that a build has to write can be written. -/
def WritesSucceed (c : ProjectConfig) (w : Workspace) : Prop :=
  ∃ r w', ((plan c w.tree w.here).emission (Layout.ofConfig c)).run w = (.ok r, w')

/-- Tells that a build has no fault in its settings, but no schema: its file is not read, or its
text is none. -/
def LacksSchema (c : ProjectConfig) (w : Workspace) : Prop :=
  c.issue? = none ∧ ((∃ fault, w.read c.schemaPath = .error fault) ∨
    ∃ sdl f, w.read c.schemaPath = .ok sdl ∧ Schema.parse sdl = .error f)

lemma lacksSchema_iff : LacksSchema c w ↔ ∃ f, plan c w.tree w.here = .placeholders f := by
  simp only [LacksSchema, Workspace.read, plan_eq_placeholders_iff, exists_and_left,
    exists_schemaOf_eq_error_iff]

/-- What a failed build leaves behind: every file as it was, and new files only where `files` were
missing and the schema is. -/
structure Spares (c : ProjectConfig) (files : List RenderedFile) (w w' : Workspace) : Prop where
  /-- Whatever was there is there. -/
  kept : ∀ b n, w.tree.node? b = some n → w'.tree.node? b = some n
  /-- A file that was not there is one of the artifacts, and there is no schema. -/
  created : ∀ b n, w.tree.node? b = none → w'.tree.node? b = some n → n ≠ .directory →
    LacksSchema c w ∧ ∃ f ∈ files, b = f.path.place w.here ∧ n = .text f.contents
  /-- Without a schema every artifact that was missing is there. -/
  completed : LacksSchema c w → ∀ f ∈ files, w.has f.path = false → w'.read f.path = .ok f.contents
  /-- With a schema, or with a fault in the settings, nothing changes at all. -/
  untouched : ¬LacksSchema c w → w'.tree = w.tree

/-- What a build that succeeds leaves behind and reports. -/
structure Delivers (lib : TypeLibrary) (files : List RenderedFile) (report : BuildReport)
    (w w' : Workspace) : Prop where
  operations : report.operations = lib.operations.length
  /-- Every artifact has its text. -/
  delivered : ∀ f ∈ files, w'.read f.path = .ok f.contents
  /-- Whatever else was there is there. -/
  kept : ∀ b n, (∀ f ∈ files, b ≠ f.path.place w.here) → w.tree.node? b = some n →
    w'.tree.node? b = some n
  /-- Nothing else is new but directories. -/
  added : ∀ b n, (∀ f ∈ files, b ≠ f.path.place w.here) → w.tree.node? b = none →
    w'.tree.node? b = some n → n = .directory
  /-- The artifacts that had other texts or none are reported as written. -/
  written : report.emitted.written = (files.filter fun f => !w.holds f.path f.contents).map (·.path)
  /-- The artifacts that had their texts are reported as unchanged. -/
  unchanged : report.emitted.unchanged =
    (files.filter fun f => w.holds f.path f.contents).map (·.path)

/-! ## The effect of a build -/

section Notes

variable {lib : TypeLibrary} {files : List RenderedFile}

/-- Notes are no files. -/
lemma Spares.noted (h : Spares c files w w') (notes : List Note) :
    Spares c files w { w' with notes } :=
  ⟨h.kept, h.created, h.completed, h.untouched⟩

lemma Delivers.noted (h : Delivers lib files report w w') (notes : List Note) :
    Delivers lib files report w { w' with notes } :=
  ⟨h.operations, h.delivered, h.kept, h.added, h.written, h.unchanged⟩

end Notes

lemma spares_of_eq {files : List RenderedFile} (hschema : ¬LacksSchema c w)
    (htree : w'.tree = w.tree) : Spares c files w w' where
  kept b n hn := htree ▸ hn
  created b n hnone hn := by
    rw [htree, hnone] at hn
    cases hn
  completed h := absurd h hschema
  untouched _ := htree

section Emission

variable {lib : TypeLibrary} {files : List RenderedFile} {r : EmitReport}

/-- The artifacts that are missing are emitted without touching others. -/
lemma spares_of_emits (hschema : LacksSchema c w) (hrooted : w.tree.IsRooted)
    (hforward : w.tree.IsForward w.here c.buildDir)
    (hfiles : renderAll registry .empty (Layout.ofConfig c) = .ok files)
    (h : Artifact.Emits (fun w f => w.has f.path) w files r w') : Spares c files w w' := by
  have htest := Artifact.isTest_has
  have hforwards : ∀ f ∈ files, w.tree.IsForward w.here f.path :=
    Artifact.isForward_of_renderAll hfiles hforward
  have hapart := Artifact.apart_of_renderAll hfiles w.here
  have hthere : ∀ f, Artifact.isThere (fun _ _ => true) w.tree w.here f = false ↔
      w.tree.node? (f.path.place w.here) = none := by
    intro f
    rw [Artifact.isThere]
    cases w.tree.node? (f.path.place w.here) <;> simp
  have hwritten : ∀ f ∈ files, w.tree.node? (f.path.place w.here) = none →
      w'.tree.node? (f.path.place w.here) = some (.text f.contents) := fun f hf hnone =>
    h.node_of_isThere htest hrooted hforwards hapart hf ((hthere f).2 hnone)
  refine ⟨?_, ?_, ?_, fun hnot => absurd hschema hnot⟩
  · intro b n hn
    refine h.gains.kept (h.not_mem_of_isThere htest hrooted hforwards hapart ?_) hn
    rintro f - hf rfl
    rw [(hthere f).1 hf] at hn
    cases hn
  · intro b n hnone hn hfile
    refine ⟨hschema, ?_⟩
    by_contra hnot
    refine hfile (h.gains.added (h.not_mem_of_isThere htest hrooted hforwards hapart ?_) hnone hn)
    rintro f hf hmissing rfl
    rw [hwritten f hf hnone] at hn
    exact hnot ⟨f, hf, rfl, (Option.some.inj hn).symm⟩
  · intro _ f hf hmissing
    rw [h.keeps_eq htest hrooted hforwards hf, hthere] at hmissing
    rw [Workspace.read, FileTree.read_eq_ok_iff, h.here]
    exact ⟨h.located htest f hf, hwritten f hf hmissing⟩

/-- All artifacts are emitted and nothing else. -/
lemma delivers_of_emits (hrooted : w.tree.IsRooted) (hforward : w.tree.IsForward w.here c.buildDir)
    (hfiles : renderAll registry lib (Layout.ofConfig c) = .ok files)
    (h : Artifact.Emits (fun w f => w.holds f.path f.contents) w files r w') :
    Delivers lib files ⟨lib.operations.length, r⟩ w w' := by
  have htest := Artifact.isTest_holds
  have hforwards : ∀ f ∈ files, w.tree.IsForward w.here f.path :=
    Artifact.isForward_of_renderAll hfiles hforward
  have hapart := Artifact.apart_of_renderAll hfiles w.here
  have hreport := h.report_eq_keeps htest hrooted hforwards hapart
  have hnot : ∀ {b}, (∀ f ∈ files, b ≠ f.path.place w.here) → b ∉ r.written.map fun p =>
    p.place w.here := fun hb =>
    h.not_mem_of_isThere htest hrooted hforwards hapart fun f hf _ => hb f hf
  refine ⟨rfl, ?_, fun b n hb => h.gains.kept (hnot hb), fun b n hb => h.gains.added (hnot hb),
    hreport.1, hreport.2⟩
  intro f hf
  rw [Workspace.read, FileTree.read_eq_ok_iff, h.here]
  exact ⟨h.located htest f hf,
    h.node_eq htest (Artifact.nodup_places_of_renderAll hfiles w.here) hf⟩

end Emission

/-- A build that fails spares what is there, one that succeeds delivers the artifacts. -/
theorem effect_of_run {result : Except Failure BuildReport} (hurl : c.schemaUrl = none)
    (hrooted : w.tree.IsRooted) (hforward : w.tree.IsForward w.here c.buildDir)
    (hwrites : WritesSucceed c w) (h : (run c).run w = (result, w')) :
    (∀ f, result = .error f → ∃ files, renderAll registry .empty (Layout.ofConfig c) = .ok files ∧
      Spares c files w w') ∧
    ∀ report, result = .ok report → ∃ lib files, plan c w.tree w.here = .artifacts lib ∧
      renderAll registry lib (Layout.ofConfig c) = .ok files ∧ Delivers lib files report w w' := by
  obtain ⟨r, v, hemission⟩ := hwrites
  obtain ⟨notes, hrun⟩ := exists_run_eq hurl hemission
  obtain ⟨rfl, rfl⟩ := Prod.mk.inj (h.symm.trans hrun)
  cases hplan : plan c w.tree w.here with
  | nothing f =>
    rw [hplan] at hemission
    cases hemission
    obtain ⟨files, hfiles⟩ := Artifact.exists_renderAll .empty (Layout.ofConfig c)
    refine ⟨fun _ _ => ⟨files, hfiles, spares_of_eq ?_ rfl⟩, fun _ hok => by cases hok⟩
    rw [lacksSchema_iff, hplan]
    simp
  | placeholders f =>
    obtain ⟨files, hfiles⟩ := Artifact.exists_renderAll .empty (Layout.ofConfig c)
    have hschema : LacksSchema c w := lacksSchema_iff.2 ⟨f, hplan⟩
    rw [hplan, Plan.emission, Artifact.run_emitPlaceholders hfiles] at hemission
    have hspares := spares_of_emits hschema hrooted hforward hfiles
      (Artifact.emits_of_run hemission)
    exact ⟨fun _ _ => ⟨files, hfiles, hspares.noted notes⟩, fun _ hok => by cases hok⟩
  | artifacts lib =>
    obtain ⟨files, hfiles⟩ := Artifact.exists_renderAll lib (Layout.ofConfig c)
    rw [hplan, Plan.emission, Artifact.run_emit hfiles] at hemission
    have hdelivers := delivers_of_emits hrooted hforward hfiles (Artifact.emits_of_run hemission)
    refine ⟨fun _ herror => (by cases herror), fun report hok => ⟨lib, files, rfl, hfiles, ?_⟩⟩
    cases hok
    exact hdelivers.noted notes

/-- A tree with the directories of the artifacts, one artifact and no schema. -/
def keptTree : FileTree :=
  (((FileTree.empty.put ["out"] .directory).put ["out", "graphql-middleware"] .directory).put
    ["out", "graphql-operations"] .directory).put ["out", "graphql-operations", "index.d.ts"]
      (.text "kept\n")

/-- A project with that tree. -/
def keptProject : Workspace :=
  .ofTree keptTree []

/-- A configuration with a build directory. -/
def configAt (dir : String) : ProjectConfig :=
  (ProjectConfig.new "https://api.example.com/graphql" ⟨"."⟩).withBuildDir ⟨dir⟩

lemma isRooted_keptTree : keptTree.IsRooted := by
  have hout := FileTree.isRooted_empty.put (a := []) (s := "out") (n := .directory) rfl rfl
  have hmiddleware := hout.put (a := ["out"]) (s := "graphql-middleware") (n := .directory) rfl rfl
  have hoperations :=
    hmiddleware.put (a := ["out"]) (s := "graphql-operations") (n := .directory) rfl rfl
  exact hoperations.put (a := ["out", "graphql-operations"]) (s := "index.d.ts")
    (n := .text "kept\n") rfl rfl

lemma exists_plan_keptProject (dir : String) :
    ∃ f, plan (configAt dir) keptProject.tree keptProject.here = .placeholders f := by
  apply lacksSchema_iff.1
  have hissue : (configAt dir).issue? = (configAt "out").issue? := rfl
  have hmissing : keptProject.read (configAt "out").schemaPath = .error .missing := by rfl
  exact ⟨hissue.trans (rfl), .inl ⟨.missing, hmissing⟩⟩

theorem effect_of_run_sample :
    ∃ f w' files, (run (configAt "out")).run keptProject = (.error f, w') ∧
    Spares (configAt "out") files keptProject w' := by
  have hforward : keptTree.IsForward [] ⟨"out"⟩ := by
    intro front rest hsteps hnone hup
    have hmem : Component.up ∈ (Path.mk "out").steps := hsteps ▸ List.mem_append_right _ hup
    exact absurd hmem (by decide)
  have hbuild : keptTree.locate [] (Layout.ofConfig (configAt "out")).buildDir =
      .ok ["out"] := by rfl
  have hthere : ∀ pieces ∈ registry.map fun a => (Path.mk a.path).pieces,
      (∀ k < pieces.length, keptTree.node? (["out"] ++ pieces.take k) = some .directory) ∧
        keptTree.node? (["out"] ++ pieces) ≠ some .directory := by
    rw [Artifact.map_pieces_registry]
    decide +kernel
  have hwrites : WritesSucceed (configAt "out") keptProject := by
    refine exists_run_emission _ fun a ha => ?_
    have hdirs := hthere _ (List.mem_map_of_mem ha)
    exact Artifact.isFree_of_mem_registry ha hbuild (by decide) hdirs.1 hdirs.2
  obtain ⟨f, hplan⟩ := exists_plan_keptProject "out"
  obtain ⟨r, w', hemission⟩ := hwrites
  obtain ⟨notes, hrun⟩ := exists_run_eq rfl hemission
  rw [hplan] at hrun
  obtain ⟨files, -, hspares⟩ :=
    (effect_of_run rfl isRooted_keptTree hforward ⟨r, w', hemission⟩ hrun).1 f rfl
  exact ⟨f, _, files, hrun, hspares⟩

/-- Where the way to the build directory leads back from a directory that is not there, a build that
fails overwrites an artifact: the directory is made, and then the path leads to the file. -/
theorem exists_overwritten : ∃ f w', WritesSucceed (configAt "a/../out") keptProject ∧
    (run (configAt "a/../out")).run keptProject = (.error f, w') ∧
    keptProject.tree.node? ["out", "graphql-operations", "index.d.ts"] = some (.text "kept\n") ∧
    w'.tree.node? ["out", "graphql-operations", "index.d.ts"] ≠ some (.text "kept\n") := by
  obtain ⟨f, hplan⟩ := exists_plan_keptProject "a/../out"
  have hemits :
      ((Artifact.emitPlaceholders registry (Layout.ofConfig (configAt "a/../out"))).run
        keptProject).1.isOk = true ∧
      ((Artifact.emitPlaceholders registry (Layout.ofConfig (configAt "a/../out"))).run
        keptProject).2.tree.node?
        ["out", "graphql-operations", "index.d.ts"] ≠ some (.text "kept\n") := by
    decide +kernel
  rcases hrun : (Artifact.emitPlaceholders registry (Layout.ofConfig (configAt "a/../out"))).run
    keptProject with ⟨_ | r, w'⟩
  · rw [hrun] at hemits
    cases hemits.1
  · rw [hrun] at hemits
    have hemission : ((plan (configAt "a/../out") keptProject.tree keptProject.here).emission
        (Layout.ofConfig (configAt "a/../out"))).run keptProject = (.ok r, w') := by
      rw [hplan]
      exact hrun
    obtain ⟨notes, hbuild⟩ := exists_run_eq rfl hemission
    rw [hplan] at hbuild
    exact ⟨f, _, ⟨r, w', hemission⟩, hbuild, rfl, hemits.2⟩

end OperationGate.Build
