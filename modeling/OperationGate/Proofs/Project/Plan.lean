import OperationGate.Project.Build
import OperationGate.Proofs.Artifact.Emission
import OperationGate.Proofs.Project.Sources

/-!
# What a build is about to do

A build reads before it writes. What it has read decides what it emits: nothing, placeholders for
lack of a schema, or the artifacts for a library (`plan`). The whole build is the emission of its
plan and a report on it (`exists_run_eq`).
-/

namespace OperationGate.Build

/-- The text of a schema. -/
def textOf (tree : FileTree) (here : Address) (path : Path) : Except Failure String :=
  match tree.read here path with
  | .ok sdl => .ok sdl
  | .error fault => .error (.config (.schemaUnreadable path.text fault.message))

/-- The schema of a project. -/
def schemaOf (c : ProjectConfig) (tree : FileTree) (here : Address) : Except Failure Schema :=
  textOf tree here c.schemaPath >>= Schema.parse

/-- The documents of a project. -/
def documentsOf (c : ProjectConfig) (tree : FileTree) (here : Address) :
    Except Failure (List SourceDocument) := do
  let docs ← Sources.collected tree here c.root c.patterns c.inlineDocuments
  return docs.filter fun d => !(c.root.join ⟨d.path⟩).same c.schemaPath

/-- The library of a project. -/
def libraryOf (c : ProjectConfig) (tree : FileTree) (here : Address) (s : Schema) :
    Except Failure TypeLibrary :=
  documentsOf c tree here >>= TypeLibrary.ofDocuments s c.scalars (some c.root)

/-- What a build is about to write when it has read all that it reads. -/
inductive Plan where
  /-- Nothing, for a failure that has nothing to do with the schema. -/
  | nothing (f : Failure)
  /-- The artifacts that are missing, for no operations, since there is no schema. -/
  | placeholders (f : Failure)
  /-- The artifacts for a library. -/
  | artifacts (lib : TypeLibrary)

/-- The plan for a library, if there is one. -/
def Plan.ofLibrary : Except Failure TypeLibrary → Plan
  | .error f => .nothing f
  | .ok lib => .artifacts lib

/-- The plan of a build with a schema. -/
def planFor (c : ProjectConfig) (tree : FileTree) (here : Address) (s : Schema) : Plan :=
  .ofLibrary (libraryOf c tree here s)

/-- The plan of a build. -/
def plan (c : ProjectConfig) (tree : FileTree) (here : Address) : Plan :=
  match c.issue? with
  | some issue => .nothing (.config issue)
  | none =>
    match schemaOf c tree here with
    | .error f => .placeholders f
    | .ok s => planFor c tree here s

/-- The emission of what is planned. -/
def Plan.emission (l : Layout) : Plan → Work EmitReport
  | .nothing _ => pure ⟨[], []⟩
  | .placeholders _ => Artifact.emitPlaceholders Artifact.registry l
  | .artifacts lib => Artifact.emit Artifact.registry lib l

/-- What a build reports when what is planned is emitted. -/
def Plan.outcome (emitted : Except Failure EmitReport) : Plan → Except Failure BuildReport
  | .nothing f => .error f
  | .placeholders f => emitted.bind fun _ => .error f
  | .artifacts lib => emitted.map fun r => ⟨lib.operations.length, r⟩

variable {c : ProjectConfig} {w w' : Workspace} {l : Layout}

/-! ## Plans -/

section Plans

variable {tree : FileTree} {here : Address}

lemma schemaOf_eq_ok_iff {s : Schema} :
    schemaOf c tree here = .ok s ↔ ∃ sdl, tree.read here c.schemaPath = .ok sdl ∧
      Schema.parse sdl = .ok s := by
  rw [schemaOf, bind_eq_ok, textOf]
  cases tree.read here c.schemaPath with
  | ok sdl => simp
  | error fault => simp

/-- There is no schema if its file is not read or its text is none. -/
lemma exists_schemaOf_eq_error_iff :
    (∃ f, schemaOf c tree here = .error f) ↔
      (∃ fault, tree.read here c.schemaPath = .error fault) ∨
        ∃ sdl f, tree.read here c.schemaPath = .ok sdl ∧ Schema.parse sdl = .error f := by
  rw [schemaOf, textOf]
  cases tree.read here c.schemaPath with
  | ok sdl => simp [bind, Except.bind]
  | error fault => simp [bind, Except.bind]

lemma plan_eq_placeholders_iff {f : Failure} :
    plan c tree here = .placeholders f ↔ c.issue? = none ∧ schemaOf c tree here = .error f := by
  unfold plan planFor
  cases c.issue? with
  | some issue => simp
  | none =>
    cases schemaOf c tree here with
    | error f' => simp
    | ok s => cases hlib : libraryOf c tree here s <;> simp [Plan.ofLibrary, hlib]

lemma plan_eq_artifacts_iff {lib : TypeLibrary} :
    plan c tree here = .artifacts lib ↔
      c.issue? = none ∧ ∃ s, schemaOf c tree here = .ok s ∧ libraryOf c tree here s = .ok lib := by
  unfold plan planFor
  cases c.issue? with
  | some issue => simp
  | none =>
    cases schemaOf c tree here with
    | error f' => simp
    | ok s => cases hlib : libraryOf c tree here s <;> simp [Plan.ofLibrary, hlib]

/-- Only a build that emits artifacts for a library succeeds. -/
lemma outcome_eq_ok_iff {p : Plan} {emitted : Except Failure EmitReport} {report : BuildReport} :
    p.outcome emitted = .ok report ↔
      ∃ lib r, p = .artifacts lib ∧ emitted = .ok r ∧ report = ⟨lib.operations.length, r⟩ := by
  cases p with
  | nothing f => simp [Plan.outcome]
  | placeholders f =>
    cases emitted with
    | error f' => simp [Plan.outcome, Except.bind]
    | ok r => simp [Plan.outcome, Except.bind]
  | artifacts lib =>
    cases emitted with
    | error f => simp [Plan.outcome, Except.map]
    | ok r => simp [Plan.outcome, Except.map, eq_comm]

end Plans

/-! ## Steps -/

section Steps

variable {α : Type} {what : String} {x : Work α}

lemma reads_orPlaceholders {a : α} (h : Work.Reads x w (.ok a)) :
    Work.Reads (orPlaceholders l what x) w (.ok a) := by
  obtain ⟨notes, h⟩ := h
  exact ⟨notes, Work.run_onFailure_of_ok h⟩

/-- Work that fails without writing is followed by the emission of placeholders. -/
lemma run_orPlaceholders {f : Failure} (h : Work.Reads x w (.error f)) :
    ∃ notes, ∀ e w', (Artifact.emitPlaceholders Artifact.registry l).run { w with notes } =
      (e, w') → (orPlaceholders l what x).run w = (e.bind fun _ => .error f, w') := by
  obtain ⟨notes, h⟩ := h
  refine ⟨notes ++ [⟨.warning, what ++ ", writing placeholders: " ++ f.message⟩], fun e w' he => ?_⟩
  rw [orPlaceholders, Work.run_onFailure_of_error h]
  have hafter : ∀ e' : Except Failure Unit,
      (discard (Artifact.emitPlaceholders Artifact.registry l)).run
        { w with notes := notes ++ [⟨.warning, what ++ ", writing placeholders: " ++ f.message⟩] } =
        (e', w') →
      (do
        Work.note .warning (what ++ ", writing placeholders: " ++ f.message)
        discard (Artifact.emitPlaceholders Artifact.registry l) : Work Unit).run { w with notes } =
        (e', w') :=
    fun e' hdiscard => (Work.run_bind_of_ok (Work.run_note _ _ _)).trans hdiscard
  cases e with
  | ok r => exact Work.run_bind_of_ok (hafter _ (Work.run_discard_of_ok he))
  | error e => exact Work.run_bind_of_error (hafter _ (Work.run_discard_of_error he))

lemma reads_liftExcept {a b : Except Failure α} (h : a = b) (w : Workspace) :
    Work.Reads (liftExcept a) w b :=
  ⟨w.notes, by rw [← h]; rfl⟩

end Steps

lemma reads_loadSchema (path : Path) (w : Workspace) :
    Work.Reads (Sources.loadSchema (.file path)) w (textOf w.tree w.here path) := by
  refine ⟨w.notes ++ [⟨.debug, "reading schema from " ++ path.text⟩], ?_⟩
  unfold Sources.loadSchema
  rw [Work.run_bind_of_ok (Work.run_note _ _ w), Work.run_bind_of_ok (Work.run_get _)]
  unfold textOf
  have hread : (w.noted .debug ("reading schema from " ++ path.text)).read path =
      w.tree.read w.here path := rfl
  rw [hread]
  cases w.tree.read w.here path with
  | ok sdl => rfl
  | error fault => rfl

lemma reads_documents (c : ProjectConfig) (w : Workspace) :
    Work.Reads (documents c) w (documentsOf c w.tree w.here) :=
  (Sources.reads_collectDocuments _ _ _ w).bind fun _ _ _ => Work.reads_pure _ _

/-- The rest of a build reads, emits what is planned, and reports. -/
lemma exists_run_emitFor (c : ProjectConfig) (w : Workspace) (s : Schema) :
    ∃ notes, ∀ e v, ((planFor c w.tree w.here s).emission (Layout.ofConfig c)).run
      { w with notes } = (e, v) →
      ∃ notes', (emitFor c s).run w =
        ((planFor c w.tree w.here s).outcome e, { v with notes := notes' }) := by
  obtain ⟨notes, hdocs⟩ := reads_documents c w
  cases hof : documentsOf c w.tree w.here with
  | error f =>
    have hplan : planFor c w.tree w.here s = .nothing f := by
      rw [planFor, libraryOf, hof]
      rfl
    rw [hof] at hdocs
    rw [hplan]
    refine ⟨notes, fun e v he => ⟨notes, ?_⟩⟩
    cases he
    exact Work.run_bind_of_error hdocs
  | ok docs =>
    rw [hof] at hdocs
    rw [emitFor, Work.run_bind_of_ok hdocs]
    cases hmade : TypeLibrary.ofDocuments s c.scalars (some c.root) docs with
    | error f =>
      have hplan : planFor c w.tree w.here s = .nothing f := by
        rw [planFor, libraryOf, hof]
        exact congrArg Plan.ofLibrary hmade
      obtain ⟨notes', hlib⟩ :=
        reads_liftExcept (Eq.refl (Except.error f : Except Failure TypeLibrary)) { w with notes }
      rw [hplan]
      refine ⟨notes', fun e v he => ⟨notes', ?_⟩⟩
      cases he
      exact Work.run_bind_of_error hlib
    | ok lib =>
      have hplan : planFor c w.tree w.here s = .artifacts lib := by
        rw [planFor, libraryOf, hof]
        exact congrArg Plan.ofLibrary hmade
      obtain ⟨notes', hlib⟩ :=
        reads_liftExcept (Eq.refl (Except.ok lib : Except Failure TypeLibrary)) { w with notes }
      rw [hplan, Work.run_bind_of_ok hlib]
      refine ⟨notes', fun e v he => ?_⟩
      have hemit : (Artifact.emit Artifact.registry lib (Layout.ofConfig c)).run { w with notes :=
          notes' } = (e, v) := he
      cases e with
      | error f => exact ⟨v.notes, Work.run_bind_of_error hemit⟩
      | ok r =>
        rw [Work.run_bind_of_ok hemit]
        exact ⟨_, Work.run_bind_of_ok (Work.run_note _ _ v)⟩

lemma exists_notes_of_run (hurl : c.schemaUrl = none) (w : Workspace) :
    ∃ notes, ∀ e v, ((plan c w.tree w.here).emission (Layout.ofConfig c)).run { w with notes } =
      (e, v) →
      ∃ notes', (run c).run w = ((plan c w.tree w.here).outcome e, { v with notes := notes' }) := by
  have hsource : c.schemaSource = .file c.schemaPath := by rw [ProjectConfig.schemaSource, hurl]
  have hkept : c.downloadsSchema = false := by
    rw [ProjectConfig.downloadsSchema, hurl]
    rfl
  unfold run plan
  cases hissue : c.issue? with
  | some issue =>
    refine ⟨w.notes, fun e v he => ⟨w.notes, ?_⟩⟩
    cases he
    rfl
  | none =>
    have htext := reads_loadSchema c.schemaPath w
    rw [hsource, hkept, schemaOf]
    cases hsdl : textOf w.tree w.here c.schemaPath with
    | error f =>
      rw [hsdl] at htext
      obtain ⟨notes, hrun⟩ :=
        @run_orPlaceholders _ (Layout.ofConfig c) _ "schema unavailable" _ _ htext
      refine ⟨notes, fun e v he => ⟨v.notes, ?_⟩⟩
      cases e with
      | error f' => exact Work.run_bind_of_error (hrun _ _ he)
      | ok r => exact Work.run_bind_of_error (hrun _ _ he)
    | ok sdl =>
      rw [hsdl] at htext
      obtain ⟨notes, hload⟩ :=
        @reads_orPlaceholders _ (Layout.ofConfig c) _ "schema unavailable" _ _ htext
      have hbind : (Except.ok sdl >>= Schema.parse) = Schema.parse sdl := rfl
      rw [hbind]
      cases hparse : Schema.parse sdl with
      | error f =>
        have hread := reads_liftExcept hparse { w with notes }
        obtain ⟨notes', hrun⟩ :=
          @run_orPlaceholders _ (Layout.ofConfig c) _ "schema invalid" _ _ hread
        refine ⟨notes', fun e v he => ⟨v.notes, ?_⟩⟩
        cases e with
        | error f' => exact (Work.run_bind_of_ok hload).trans (Work.run_bind_of_error (hrun _ _ he))
        | ok r => exact (Work.run_bind_of_ok hload).trans (Work.run_bind_of_error (hrun _ _ he))
      | ok s =>
        have hread := reads_liftExcept hparse { w with notes }
        obtain ⟨notes', hschema⟩ :=
          @reads_orPlaceholders _ (Layout.ofConfig c) _ "schema invalid" _ _ hread
        obtain ⟨notes'', hrest⟩ := exists_run_emitFor c { w with notes := notes' } s
        refine ⟨notes'', fun e v he => ?_⟩
        obtain ⟨last, hrest⟩ := hrest e v he
        exact ⟨last, (Work.run_bind_of_ok hload).trans ((Work.run_bind_of_ok hschema).trans hrest)⟩

lemma ignoresNotes_emission (l : Layout) (plan : Plan) : Work.IgnoresNotes (plan.emission l) := by
  cases plan with
  | nothing f => exact Work.ignoresNotes_pure _
  | placeholders f =>
    obtain ⟨files, hfiles⟩ := Artifact.exists_renderAll .empty l
    intro w notes
    rw [Plan.emission, Artifact.run_emitPlaceholders hfiles, Artifact.run_emitPlaceholders hfiles]
    exact Artifact.ignoresNotes_writeAll (fun _ _ => rfl) files w notes
  | artifacts lib =>
    obtain ⟨files, hfiles⟩ := Artifact.exists_renderAll lib l
    intro w notes
    rw [Plan.emission, Artifact.run_emit hfiles, Artifact.run_emit hfiles]
    exact Artifact.ignoresNotes_writeAll (fun _ _ => rfl) files w notes

/-- What is planned is emitted where the paths of the artifacts can be gone and lead to no
directories. -/
lemma exists_run_emission (plan : Plan)
    (h : ∀ a ∈ Artifact.registry, Artifact.IsFree w.tree w.here (l.place a.path)) :
    ∃ r w', (plan.emission l).run w = (.ok r, w') := by
  cases plan with
  | nothing f => exact ⟨_, w, rfl⟩
  | placeholders f =>
    obtain ⟨files, hfiles⟩ := Artifact.exists_renderAll .empty l
    rw [Plan.emission, Artifact.run_emitPlaceholders hfiles]
    exact Artifact.exists_run_writeAll_of_renderAll hfiles h
  | artifacts lib =>
    obtain ⟨files, hfiles⟩ := Artifact.exists_renderAll lib l
    rw [Plan.emission, Artifact.run_emit hfiles]
    exact Artifact.exists_run_writeAll_of_renderAll hfiles h

/-- A build is the emission of what is planned and a report on it. -/
theorem exists_run_eq (hurl : c.schemaUrl = none) {emitted : Except Failure EmitReport}
    (h : ((plan c w.tree w.here).emission (Layout.ofConfig c)).run w = (emitted, w')) :
    ∃ notes, (run c).run w = ((plan c w.tree w.here).outcome emitted, { w' with notes }) := by
  obtain ⟨notes, hrun⟩ := exists_notes_of_run hurl w
  obtain ⟨notes', hnotes⟩ :=
    ignoresNotes_emission (Layout.ofConfig c) (plan c w.tree w.here) w notes
  rw [h] at hnotes
  exact hrun _ { w' with notes := notes' } hnotes

end OperationGate.Build
