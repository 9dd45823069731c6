import OperationGate.Files.Workspace
import OperationGate.Proofs.Files.Growth

/-!
# Work on a workspace

A step that succeeds passes on its result and what it leaves, one that fails ends the work. Work
that writes a file leaves the file at the place of its path, in a tree that grew by directories on
the way (`Work.written_of_run_writeFile`).
-/

namespace OperationGate

namespace Work

variable {α β : Type} {w w' : Workspace}

/-! ## Step by step -/

lemma run_bind_of_ok {x : Work α} {f : α → Work β} {a : α} (h : x.run w = (.ok a, w')) :
    (x >>= f).run w = (f a).run w' := by
  change ExceptT.bindCont f (x.run w).1 (x.run w).2 = _
  rw [h]
  rfl

lemma run_bind_of_error {x : Work α} {f : α → Work β} {e : Failure} (h : x.run w = (.error e, w')) :
    (x >>= f).run w = (.error e, w') := by
  change ExceptT.bindCont f (x.run w).1 (x.run w).2 = _
  rw [h]
  rfl

/-- Steps succeed if each of them does, one after the other. -/
lemma run_bind_eq_ok {x : Work α} {f : α → Work β} {b : β} (h : (x >>= f).run w = (.ok b, w')) :
    ∃ a w'', x.run w = (.ok a, w'') ∧ (f a).run w'' = (.ok b, w') := by
  rcases hx : x.run w with ⟨e | a, w''⟩
  · rw [run_bind_of_error hx] at h
    cases h
  · rw [run_bind_of_ok hx] at h
    exact ⟨a, w'', rfl, h⟩

lemma run_get (w : Workspace) : (get : Work Workspace).run w = (.ok w, w) :=
  rfl

lemma run_note (level : NoteLevel) (text : String) (w : Workspace) :
    (note level text).run w = (.ok (), w.noted level text) :=
  rfl

lemma run_discard_of_ok {x : Work α} {a : α} (h : x.run w = (.ok a, w')) :
    (discard x).run w = (.ok (), w') := by
  change (ExceptT.map (Function.const α ()) x).run w = _
  rw [ExceptT.map, ExceptT.run_mk]
  change StateT.bind x.run _ w = _
  rw [StateT.bind, h]
  rfl

lemma run_discard_of_error {x : Work α} {e : Failure} (h : x.run w = (.error e, w')) :
    (discard x).run w = (.error e, w') := by
  change (ExceptT.map (Function.const α ()) x).run w = _
  rw [ExceptT.map, ExceptT.run_mk]
  change StateT.bind x.run _ w = _
  rw [StateT.bind, h]
  rfl

/-- What is done after a failure comes before the failure is passed on. -/
lemma run_onFailure_of_error {x : Work α} {after : Failure → Work Unit} {f : Failure}
    (h : x.run w = (.error f, w')) :
    (onFailure x after).run w = (do after f; throw f : Work α).run w' := by
  unfold onFailure
  change (ExceptT.tryCatch x _).run w = _
  rw [ExceptT.tryCatch, ExceptT.run_mk]
  change StateT.bind x.run _ w = _
  rw [StateT.bind, h]
  rfl

lemma run_onFailure_of_ok {x : Work α} {after : Failure → Work Unit} {a : α}
    (h : x.run w = (.ok a, w')) : (onFailure x after).run w = (.ok a, w') := by
  unfold onFailure
  change (ExceptT.tryCatch x _).run w = _
  rw [ExceptT.tryCatch, ExceptT.run_mk]
  change StateT.bind x.run _ w = _
  rw [StateT.bind, h]
  rfl

/-! ## Work that only reads -/

/-- Tells that work has a result and changes nothing but the notes. -/
def Reads (x : Work α) (w : Workspace) (result : Except Failure α) : Prop :=
  ∃ notes, x.run w = (result, { w with notes })

lemma reads_pure (a : α) (w : Workspace) : Reads (pure a) w (pure a) :=
  ⟨w.notes, rfl⟩

lemma reads_note (level : NoteLevel) (text : String) (w : Workspace) :
    Reads (note level text) w (.ok ()) :=
  ⟨w.notes ++ [⟨level, text⟩], rfl⟩

/-- Work that only reads can be done in steps. -/
lemma Reads.bind {x : Work α} {f : α → Work β} {a : Except Failure α} {g : α → Except Failure β}
    (hx : Reads x w a) (hf : ∀ b notes, a = .ok b → Reads (f b) { w with notes } (g b)) :
    Reads (x >>= f) w (a >>= g) := by
  obtain ⟨notes, hx⟩ := hx
  cases a with
  | error e => exact ⟨notes, run_bind_of_error hx⟩
  | ok b =>
    obtain ⟨notes', hb⟩ := hf b notes rfl
    exact ⟨notes', (run_bind_of_ok hx).trans hb⟩

lemma Reads.mapM {f : α → Work β} {g : α → Except Failure β}
    (h : ∀ a notes, Reads (f a) { w with notes } (g a)) (xs : List α) :
    Reads (xs.mapM f) w (xs.mapM g) := by
  induction xs generalizing w with
  | nil => exact ⟨w.notes, rfl⟩
  | cons x xs ih =>
    rw [List.mapM_cons, List.mapM_cons]
    refine (h x w.notes).bind fun b notes _ => ?_
    have hrest : Reads (xs.mapM f) { w with notes } (xs.mapM g) := ih fun a notes' => h a notes'
    exact hrest.bind fun bs notes' _ => reads_pure (b :: bs) _

/-! ## Work that does not look at notes -/

/-- Tells that the notes made before have no part in what work does. -/
def IgnoresNotes (x : Work α) : Prop :=
  ∀ w notes, ∃ notes', x.run { w with notes } = ((x.run w).1, { (x.run w).2 with notes := notes' })

lemma ignoresNotes_pure (a : α) : IgnoresNotes (pure a) :=
  fun _ notes => ⟨notes, rfl⟩

lemma ignoresNotes_note (level : NoteLevel) (text : String) : IgnoresNotes (note level text) :=
  fun _ notes => ⟨notes ++ [⟨level, text⟩], rfl⟩

lemma IgnoresNotes.bind {x : Work α} {f : α → Work β} (hx : IgnoresNotes x)
    (hf : ∀ a, IgnoresNotes (f a)) : IgnoresNotes (x >>= f) := by
  intro w notes
  obtain ⟨notes', hx⟩ := hx w notes
  rcases hrun : x.run w with ⟨e | a, w'⟩
  · rw [hrun] at hx
    rw [run_bind_of_error hx, run_bind_of_error hrun]
    exact ⟨notes', rfl⟩
  · rw [hrun] at hx
    rw [run_bind_of_ok hx, run_bind_of_ok hrun]
    exact hf a w' notes'

/-- Work that goes on with what it sees ignores notes if it sees the same without them. -/
lemma ignoresNotes_get_bind {f : Workspace → Work α} (hsame : ∀ w notes, f { w with notes } = f w)
    (hf : ∀ w, IgnoresNotes (f w)) : IgnoresNotes (get >>= f) := by
  intro w notes
  rw [run_bind_of_ok (run_get _), run_bind_of_ok (run_get w), hsame]
  exact hf w w notes

lemma IgnoresNotes.foldlM {f : β → α → Work β} (h : ∀ b a, IgnoresNotes (f b a)) (as : List α)
    (b : β) : IgnoresNotes (as.foldlM f b) := by
  induction as generalizing b with
  | nil => exact ignoresNotes_pure b
  | cons a as ih =>
    rw [List.foldlM_cons]
    exact (h b a).bind ih

/-! ## Writing -/

lemma run_makeWay (dir : Path) (w : Workspace) :
    (makeWay dir).run w = (if (w.tree.makeWay w.here dir).2 then .ok () else .error .io,
      { w with tree := (w.tree.makeWay w.here dir).1 }) := by
  unfold makeWay
  rw [run_bind_of_ok (run_get w)]
  rcases w.tree.makeWay w.here dir with ⟨tree, made⟩
  cases made with
  | false => rfl
  | true => rfl

lemma ignoresNotes_putFile (p : Path) (n : FileNode) : IgnoresNotes (putFile p n) := by
  intro w notes
  unfold putFile
  rw [run_bind_of_ok (run_get _), run_bind_of_ok (run_get w)]
  cases w.tree.write? w.here p n with
  | none => exact ⟨notes, rfl⟩
  | some tree => exact ⟨notes, rfl⟩

lemma ignoresNotes_writeFile (p : Path) (n : FileNode) : IgnoresNotes (writeFile p n) := by
  unfold writeFile
  cases p.parent? with
  | none => exact ignoresNotes_putFile p n
  | some dir =>
    have hway : IgnoresNotes (makeWay dir) :=
      fun w notes => ⟨notes, by rw [run_makeWay, run_makeWay]⟩
    exact hway.bind fun _ => ignoresNotes_putFile p n

/-- Tells that a workspace comes from another by writing a file. -/
structure Written (w : Workspace) (p : Path) (n : FileNode) (w' : Workspace) : Prop where
  here : w'.here = w.here
  download : w'.download = w.download
  located : w'.tree.locate w.here p = .ok (p.place w.here)
  node : w'.tree.node? (p.place w.here) = some n
  gains : w.tree.Gains [p.place w.here] w'.tree
  above : w.tree.IsForward w.here p → w.tree.GainsAbove [p.place w.here] w'.tree

variable {p : Path} {n : FileNode}

lemma run_putFile_eq_ok (h : (putFile p n).run w = (.ok (), w')) :
    ∃ tree, w.tree.write? w.here p n = some tree ∧ w' = { w with tree } := by
  unfold putFile at h
  rw [run_bind_of_ok (run_get w)] at h
  cases hwrite : w.tree.write? w.here p n with
  | none =>
    rw [hwrite] at h
    cases h
  | some tree =>
    rw [hwrite] at h
    cases h
    exact ⟨tree, rfl, rfl⟩

/-- The way to a path adds directories only, and where the path leads on only such as are above its
place. -/
lemma gains_of_run_writeFile (h : (writeFile p n).run w = (.ok (), w')) :
    ∃ t, w.tree.Gains [] t ∧ (w.tree.IsForward w.here p → w.tree.GainsAbove [p.place w.here] t) ∧
      (putFile p n).run { w with tree := t } = (.ok (), w') := by
  unfold writeFile at h
  cases hdir : p.parent? with
  | none =>
    rw [hdir] at h
    exact ⟨w.tree, .refl [] _, fun _ => .refl _ _, h⟩
  | some dir =>
    rw [hdir] at h
    obtain ⟨⟨⟩, w'', hway, hput⟩ := run_bind_eq_ok h
    rw [run_makeWay] at hway
    obtain ⟨-, rfl⟩ := Prod.mk.inj hway
    exact ⟨_, FileTree.gains_makeWay _ _ _, fun hforward =>
      FileTree.gainsAbove_makeWay hforward hdir, hput⟩

/-- A file that is written is at the place of its path, and all else stays or is a directory on the
way. -/
theorem written_of_run_writeFile (hn : n ≠ .directory) (h : (writeFile p n).run w = (.ok (), w')) :
    Written w p n w' := by
  obtain ⟨t, hgains, habove, hput⟩ := gains_of_run_writeFile h
  obtain ⟨tree, hwrite, rfl⟩ := run_putFile_eq_ok hput
  obtain ⟨hlocate, hnode, rfl⟩ := FileTree.exists_put_of_write? hwrite
  have hput := FileTree.gains_put_file hn hnode
  have hroot : p.place w.here ≠ [] := by
    intro he
    rw [he] at hnode
    exact hnode rfl
  have hself : (t.put (p.place w.here) n).node? (p.place w.here) = some n := by
    rw [FileTree.node?_put hroot, if_pos rfl]
  refine ⟨rfl, rfl, ?_, hself, (hgains.mono (by simp)).trans hput,
    fun hforward b hnone hdirectory => ?_⟩
  · exact FileTree.locate_of_keepsDirectories hput.directories hlocate
  · rcases hput.made b hdirectory with hbefore | hbefore
    · have hb : b = p.place w.here := by
        by_contra hb
        rw [FileTree.node?_put hroot, if_neg (Ne.symm hb), hbefore] at hdirectory
        cases hdirectory
      rw [hb, hself] at hdirectory
      exact absurd (Option.some.inj hdirectory) hn
    · exact habove hforward b hnone hbefore

/-- A file is written where the way to it can be gone and no directory is in its place. -/
lemma run_writeFile_of_locate {a : Address} (h : w.tree.locate w.here p = .ok a)
    (ha : w.tree.node? a ≠ some .directory) :
    (writeFile p n).run w = (.ok (), { w with tree := w.tree.put a n }) := by
  have hput : (putFile p n).run w = (.ok (), { w with tree := w.tree.put a n }) := by
    unfold putFile
    rw [run_bind_of_ok (run_get w), FileTree.write?_of_locate h ha]
    rfl
  unfold writeFile
  cases hdir : p.parent? with
  | none => exact hput
  | some dir =>
    have hway : (makeWay dir).run w = (.ok (), w) := by
      rw [run_makeWay, FileTree.makeWay_of_locate h hdir]
      rfl
    exact (run_bind_of_ok hway).trans hput

end Work

end OperationGate
