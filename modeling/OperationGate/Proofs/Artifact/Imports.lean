import OperationGate.Proofs.Artifact.Emission

/-!
# Imports lead to their files

An artifact imports the options of a project by the path that leads from its own directory to the
file. The path goes up out of what the directory has of its own, and then down to the file. If the
directory has no `..` of its own, each `..` of the path takes back one name, and the path leads to
the file, but for the ending that is left out (`Layout.place_importOf`). A `..` of the directory is
counted like a name, though it takes back one itself: then the path leads elsewhere
(`Layout.exists_import_astray`).
-/

namespace OperationGate

namespace Path

/-! ## Paths made of components -/

/-- Tells that a component is found again in its text. -/
def IsStep (c : Component) : Prop :=
  (Path.mk c.text).isAbsolute = false ∧ (Path.mk c.text).steps = [c]

lemma isStep_up : IsStep .up :=
  ⟨by decide, by decide⟩

lemma isAbsolute_of_not_mem {s : String} (h : '/' ∉ s.toList) : (Path.mk s).isAbsolute = false := by
  rw [isAbsolute, beq_eq_false_iff_ne]
  exact fun hhead => h (List.mem_of_head? hhead)

lemma pieces_of_not_mem {s : String} (h : '/' ∉ s.toList) : (Path.mk s).pieces = [s] := by
  have hparts : ∀ part ∈ [s], '/' ∉ part.toList := by simpa using h
  exact Text.splitAt_joinWith hparts (List.cons_ne_nil s [])

/-- The steps of a path are found again in their texts, which have no slashes. -/
lemma isStep_of_mem_steps {p : Path} {c : Component} (h : c ∈ p.steps) :
    IsStep c ∧ '/' ∉ c.text.toList := by
  obtain ⟨piece, hpiece, hc⟩ := List.mem_filterMap.1 h
  have hslash : '/' ∉ piece.toList := Text.not_mem_of_mem_splitAt hpiece
  rcases cases_of_component? hc with rfl | rfl
  · exact ⟨isStep_up, by decide⟩
  · refine ⟨⟨isAbsolute_of_not_mem hslash, ?_⟩, hslash⟩
    rw [steps, Component.text, pieces_of_not_mem hslash, List.filterMap_cons_some hc,
      List.filterMap_nil]

lemma ofComponents_concat (cs : List Component) (c : Component) :
    ofComponents (cs ++ [c]) = (ofComponents cs).join ⟨c.text⟩ := by
  rw [ofComponents, List.foldl_append]
  rfl

lemma spec_of_foldl_join {cs : List Component} (h : ∀ c ∈ cs, IsStep c) (p : Path) :
    (cs.foldl (fun p c => p.join ⟨c.text⟩) p).isAbsolute = p.isAbsolute ∧
      (cs.foldl (fun p c => p.join ⟨c.text⟩) p).steps = p.steps ++ cs := by
  induction cs generalizing p with
  | nil => simp
  | cons c cs ih =>
    rw [List.forall_mem_cons] at h
    obtain ⟨habsolute, hsteps⟩ := ih h.2 (p.join ⟨c.text⟩)
    rw [List.foldl_cons, habsolute, hsteps, isAbsolute_join h.1.1, steps_join h.1.1, h.1.2,
      List.append_assoc]
    exact ⟨rfl, rfl⟩

/-- A path that is made of components has them as its steps. -/
lemma steps_ofComponents {cs : List Component} (h : ∀ c ∈ cs, IsStep c) :
    (ofComponents cs).steps = cs := by
  rw [ofComponents, (spec_of_foldl_join h _).2, steps_empty, List.nil_append]

lemma not_mem_text_ofComponents {x : Char} (hx : x ≠ '/') {cs : List Component}
    (h : ∀ c ∈ cs, x ∉ c.text.toList) : x ∉ (ofComponents cs).text.toList := by
  induction cs using List.reverseRecOn with
  | nil => simp [ofComponents]
  | append_singleton cs c ih =>
    rw [List.forall_mem_append] at h
    have hc := h.2 c List.mem_cons_self
    have hcs := ih h.1
    rw [ofComponents_concat, join]
    split
    · exact hc
    · split
      · simp [hcs, hc]
      · simp [hcs, hc, hx]

/-! ## Straight paths -/

/-- The path that leads to the place of an absolute path without any dots. -/
def straight (p : Path) : Path :=
  ofComponents (.root :: (p.place []).map .name)

lemma name_of_mem_foldl_follow {cs : List Component} {a : Address} {s : String}
    (h : s ∈ cs.foldl FileTree.follow a) : s ∈ a ∨ .name s ∈ cs := by
  induction cs generalizing a with
  | nil => exact .inl h
  | cons c cs ih =>
    rcases ih h with h | h
    · cases c with
      | root => cases h
      | here => exact .inl h
      | up => exact .inl (List.mem_of_mem_dropLast h)
      | name s' =>
        rcases List.mem_append.1 h with h | h
        · exact .inl h
        · obtain rfl := List.mem_singleton.1 h
          exact .inr List.mem_cons_self
    · exact .inr (List.mem_cons_of_mem _ h)

lemma isStep_of_mem_place {p : Path} {s : String} (h : s ∈ p.place []) : IsStep (.name s) := by
  rcases name_of_mem_foldl_follow h with h | h
  · rw [start] at h
    split at h <;> cases h
  · exact (isStep_of_mem_steps h).1

/-- A path that is made of steps from the root leads where they do. -/
lemma place_ofComponents_root {cs : List Component} (h : ∀ c ∈ cs, IsStep c) (here : Address) :
    (ofComponents (.root :: cs)).place here = cs.foldl FileTree.follow [] := by
  obtain ⟨habsolute, hsteps⟩ := spec_of_foldl_join h ⟨"/"⟩
  have hroot : ofComponents (.root :: cs) = cs.foldl (fun p c => p.join ⟨c.text⟩) ⟨"/"⟩ := rfl
  have hslash : (Path.mk "/").isAbsolute = true ∧ (Path.mk "/").steps = [] := by decide
  rw [place, start, hroot, habsolute, hsteps, hslash.1, hslash.2, List.nil_append, if_pos rfl]

/-- A straight path leads to the same place. -/
lemma place_straight (p : Path) : p.straight.place [] = p.place [] := by
  have hsteps : ∀ c ∈ (p.place []).map Component.name, IsStep c := by
    intro c hc
    obtain ⟨s, hs, rfl⟩ := List.mem_map.1 hc
    exact isStep_of_mem_place hs
  rw [straight, place_ofComponents_root hsteps, FileTree.foldl_follow_names, List.nil_append]

end Path

namespace FileTree

/-- Each step up takes back a name. -/
lemma foldl_follow_up (names : List String) (a : Address) :
    (names.map fun _ => Component.up).foldl follow (a ++ names) = a := by
  induction names using List.reverseRecOn with
  | nil => exact List.append_nil a
  | append_singleton names s ih =>
    have hups : ((names ++ [s]).map fun _ => Component.up) = .up :: names.map fun _ => .up := by
      rw [List.map_const', List.map_const', List.length_append, List.length_singleton,
        List.replicate_succ]
    rw [hups, List.foldl_cons, ← List.append_assoc, follow, List.dropLast_concat, ih]

end FileTree

namespace Path

lemma relativeComponents_append (shared : List Component) {own rest : List Component}
    (h : ∀ c ∈ own.head?, c ∉ rest.head?) :
    relativeComponents (shared ++ own) (shared ++ rest) = own.map (fun _ => .up) ++ rest := by
  induction shared with
  | nil =>
    cases own with
    | nil => cases rest <;> rfl
    | cons a own =>
      cases rest with
      | nil => rfl
      | cons b rest =>
        have hab : a ≠ b := fun hab => h a rfl (hab ▸ rfl)
        exact if_neg hab
  | cons c shared ih => exact (if_pos rfl).trans ih

/-- Below a path, whatever is relative follows the same front. -/
lemma exists_front_of_join (p : Path) : ∃ front : String, (front = "" ∨ ∃ t, front = t ++ "/") ∧
    ∀ s, '/' ∉ s.toList → (p.join ⟨s⟩).text = front ++ s := by
  by_cases hp : p.text = ""
  · refine ⟨"", .inl rfl, fun s hs => ?_⟩
    rw [join, isAbsolute_of_not_mem hs, if_neg Bool.false_ne_true, if_pos (by simp [hp]), hp]
  by_cases hlast : p.text.toList.getLast? = some '/'
  · obtain ⟨t, ht⟩ := List.getLast?_eq_some_iff.1 hlast
    refine ⟨p.text, .inr ⟨String.ofList t, by rw [← String.toList_inj, ht]; simp⟩, fun s hs => ?_⟩
    rw [join, isAbsolute_of_not_mem hs, if_neg Bool.false_ne_true, if_pos (by simp [hlast])]
  · refine ⟨p.text ++ "/", .inr ⟨_, rfl⟩, fun s hs => ?_⟩
    rw [join, isAbsolute_of_not_mem hs, if_neg Bool.false_ne_true, if_neg (by simp [hp, hlast])]

end Path

namespace Layout

/-! ## Endings -/

lemma findSome?_beforeTail?_append {endings : List String} (h : ∀ e ∈ endings, '/' ∉ e.toList)
    {front : String} (hfront : front = "" ∨ ∃ t, front = t ++ "/") (s : String) :
    (endings.findSome? fun e => Text.beforeTail? e (front ++ s)) =
      (endings.findSome? fun e => Text.beforeTail? e s).map (front ++ ·) := by
  induction endings with
  | nil => rfl
  | cons e endings ih =>
    rw [List.forall_mem_cons] at h
    rw [List.findSome?_cons, List.findSome?_cons, Text.beforeTail?_append h.1 hfront]
    cases Text.beforeTail? e s with
    | none => exact ih h.2
    | some r => rfl

lemma mem_of_mem_dropEnding {s : String} {c : Char} (h : c ∈ (dropEnding s).toList) :
    c ∈ s.toList := by
  unfold dropEnding at h
  cases hfound : scriptEndings.findSome? fun e => Text.beforeTail? e s with
  | none =>
    rw [hfound] at h
    exact h
  | some r =>
    rw [hfound] at h
    obtain ⟨e, -, he⟩ := List.exists_of_findSome?_eq_some hfound
    rw [Text.beforeTail?_eq_some_iff.1 he, String.toList_append]
    exact List.mem_append_left _ h

/-- The ending of a path is that of its last name. -/
lemma dropEnding_join (p : Path) {s : String} (hs : '/' ∉ s.toList) :
    dropEnding (p.join ⟨s⟩).text = (p.join ⟨dropEnding s⟩).text := by
  obtain ⟨front, hfront, hjoin⟩ := p.exists_front_of_join
  have hdropped : '/' ∉ (dropEnding s).toList := fun h => hs (mem_of_mem_dropEnding h)
  rw [hjoin s hs, hjoin _ hdropped, dropEnding, dropEnding,
    findSome?_beforeTail?_append (by decide) hfront]
  cases scriptEndings.findSome? fun e => Text.beforeTail? e s <;> rfl

/-- An import starts with a dot, so it is the path of a file and not the name of a package. -/
lemma importOf_starts (l : Layout) (source : String) (target : Path) :
    ∃ rest, l.importOf source target = "./" ++ rest ∨ l.importOf source target = "../" ++ rest := by
  unfold importOf
  dsimp only
  split
  next h =>
    obtain ⟨rest, hrest⟩ := Option.isSome_iff_exists.1 h
    exact ⟨rest, .inr (Text.afterFront?_eq_some_iff.1 hrest)⟩
  next => exact ⟨_, .inl rfl⟩

/-- The directory of an artifact. -/
def dirOf (l : Layout) (source : String) : Path :=
  (l.place source).parent?.getD l.buildDir

/-- The path from the directory of an artifact to a file. -/
def wayTo (l : Layout) (source : String) (target : Path) : Path :=
  .ofComponents (Path.relativeComponents (l.dirOf source).components
    (l.root.join target).components)

/-- A dot at the front does not change where an import leads. -/
lemma place_importOf_eq {l : Layout} {source : String} {target : Path}
    (h : '\\' ∉ (l.wayTo source target).text.toList) (a : Address) :
    (Path.mk (l.importOf source target)).place a =
      (Path.mk (dropEnding (l.wayTo source target).text)).steps.foldl FileTree.follow a := by
  have himport : l.importOf source target =
      if (Text.afterFront? "../" (dropEnding (l.wayTo source target).text)).isSome then
        dropEnding (l.wayTo source target).text
      else "./" ++ dropEnding (l.wayTo source target).text := by
    rw [← @Text.replaceChar_eq_self '\\' '/' _ h]
    rfl
  rw [himport]
  split
  next hup =>
    obtain ⟨rest, hrest⟩ := Option.isSome_iff_exists.1 hup
    have hrelative : (Path.mk (dropEnding (l.wayTo source target).text)).isAbsolute = false := by
      rw [Text.afterFront?_eq_some_iff.1 hrest, Path.isAbsolute, String.toList_append]
      rfl
    rw [Path.place, Path.start, hrelative, if_neg Bool.false_ne_true]
  next =>
    have hdot : (Path.mk ".").steps = [] := by decide
    have hrelative : (Path.mk ("./" ++ dropEnding (l.wayTo source target).text)).isAbsolute =
        false := by
      rw [Path.isAbsolute, String.toList_append]
      rfl
    have hsteps := Path.steps_slash "." (dropEnding (l.wayTo source target).text)
    rw [hdot, List.nil_append] at hsteps
    rw [Path.place, Path.start, hrelative, if_neg Bool.false_ne_true]
    exact congrArg (List.foldl _ _) hsteps

end Layout

namespace Path

variable {p q : Path}

lemma isAbsolute_join_of_isAbsolute (h : p.isAbsolute = true) (q : Path) :
    (p.join q).isAbsolute = true := by
  cases hq : q.isAbsolute with
  | true => rwa [join, if_pos hq]
  | false => rw [isAbsolute_join hq, h]

lemma components_of_isAbsolute (h : p.isAbsolute = true) : p.components = .root :: p.steps := by
  rw [components_eq, if_pos h]

lemma place_of_isAbsolute (h : p.isAbsolute = true) (here : Address) :
    p.place here = p.steps.foldl FileTree.follow [] := by
  rw [place, start, if_pos h]

/-- Every path but the root and the empty one is held by a directory. -/
lemma exists_parent? (htext : p.text ≠ "") (hroot : p.components ≠ [.root]) :
    ∃ dir, p.parent? = some dir := by
  unfold parent?
  rw [if_neg (by simp [htext, hroot])]
  split
  · split
    · exact ⟨_, rfl⟩
    · split
      · exact ⟨_, rfl⟩
      · exact ⟨_, rfl⟩
  · exact ⟨_, rfl⟩

end Path

namespace Layout

open Artifact (registry)

/-- The directory of an artifact has the components of its path but the last, which is a name. -/
lemma components_dirOf {l : Layout} (hbuild : l.buildDir.isAbsolute = true) {a : Artifact}
    (ha : a ∈ registry) :
    ∃ cs s, (l.dirOf a.path).components = .root :: cs ∧
      (l.place a.path).steps = cs ++ [.name s] := by
  have hrelative := (Artifact.path_registry a ha).1
  have habsolute : (l.place a.path).isAbsolute = true := Path.isAbsolute_join_of_isAbsolute hbuild _
  have hsteps : (l.place a.path).steps = l.buildDir.steps ++ (Path.mk a.path).pieces.map .name := by
    rw [place, Path.steps_join hrelative, Artifact.steps_of_mem_registry ha]
  obtain ⟨names, s, hnames⟩ : ∃ names s, (Path.mk a.path).pieces = names ++ [s] :=
    (List.eq_nil_or_concat' _).resolve_left (Path.pieces_ne_nil _)
  rw [hnames, List.map_append, ← List.append_assoc] at hsteps
  have hcomponents := Path.components_of_isAbsolute habsolute
  obtain ⟨dir, hdir⟩ : ∃ dir, (l.place a.path).parent? = some dir := by
    refine Path.exists_parent? ?_ ?_
    · intro htext
      rw [Path.isAbsolute, htext] at habsolute
      cases habsolute
    · rw [hcomponents, hsteps]
      simp
  obtain ⟨c, hc⟩ := Path.components_parent? hdir
  rw [hcomponents, hsteps, ← List.cons_append] at hc
  refine ⟨_, s, ?_, hsteps⟩
  rw [dirOf, hdir, Option.getD_some]
  exact (List.append_inj' hc rfl).1.symm

/-- Nothing is left out after a `..`. -/
lemma dropEnding_up (cs : List Component) :
    dropEnding (Path.ofComponents (cs ++ [.up])).text = (Path.ofComponents (cs ++ [.up])).text := by
  have hup : dropEnding ".." = ".." := by decide
  rw [Path.ofComponents_concat, Component.text, dropEnding_join _ (by decide), hup]

section Ways

variable {base : Address} {names : List String} {rest sh : List Component} {target : Path}

/-- The way up from the names of a directory and down to a file leads to the file, without its
ending. -/
lemma foldl_follow_way_name {f : String} (hsteps : target.steps = sh ++ rest ++ [.name f])
    (habsolute : target.isAbsolute = true) (hbase : sh.foldl FileTree.follow [] = base) :
    (Path.mk (dropEnding
      (Path.ofComponents ((names.map fun _ => .up) ++ (rest ++ [.name f]))).text)).steps.foldl
      FileTree.follow (base ++ names) = (Path.mk (dropEnding target.straight.text)).place [] := by
  have hstep : ∀ c ∈ target.steps, Path.IsStep c ∧ '/' ∉ c.text.toList :=
    fun c => Path.isStep_of_mem_steps
  rw [hsteps] at hstep
  have hf : '/' ∉ f.toList := (hstep (.name f) (by simp)).2
  have hdropped : (Path.mk (dropEnding f)).isAbsolute = false :=
    Path.isAbsolute_of_not_mem fun h => hf (mem_of_mem_dropEnding h)
  -- Where the file is, and where its directory is.
  have hplace : target.place [] = rest.foldl FileTree.follow base ++ [f] := by
    rw [Path.place_of_isAbsolute habsolute, hsteps, List.foldl_append, List.foldl_append, hbase]
    rfl
  have hfront : ∀ c ∈ (names.map fun _ => .up) ++ rest, Path.IsStep c := by
    intro c hc
    rcases List.mem_append.1 hc with hc | hc
    · obtain ⟨-, -, rfl⟩ := List.mem_map.1 hc
      exact Path.isStep_up
    · exact (hstep c (by simp [hc])).1
  have hnames : ∀ c ∈ (rest.foldl FileTree.follow base).map Component.name, Path.IsStep c := by
    intro c hc
    obtain ⟨s, hs, rfl⟩ := List.mem_map.1 hc
    exact Path.isStep_of_mem_place (hplace ▸ List.mem_append_left _ hs)
  have hstraight : target.straight =
      (Path.ofComponents (.root :: (rest.foldl FileTree.follow base).map .name)).join ⟨f⟩ := by
    rw [Path.straight, hplace, List.map_append, ← List.cons_append]
    exact Path.ofComponents_concat _ _
  rw [← List.append_assoc, Path.ofComponents_concat, Component.text,
    dropEnding_join _ hf, hstraight, dropEnding_join _ hf, Path.steps_join hdropped,
    Path.steps_ofComponents hfront, List.append_assoc,
    List.foldl_append, FileTree.foldl_follow_up, Path.place_join hdropped,
    Path.place_ofComponents_root hnames,
    FileTree.foldl_follow_names, List.nil_append, List.foldl_append]

/-- A way that does not end with a name leads to its target. -/
lemma foldl_follow_way_up (hsteps : target.steps = sh ++ rest)
    (habsolute : target.isAbsolute = true) (hbase : sh.foldl FileTree.follow [] = base)
    (hlast : ∀ f, rest.getLast? ≠ some (.name f)) :
    (Path.mk (dropEnding (Path.ofComponents ((names.map fun _ => .up) ++ rest)).text)).steps.foldl
      FileTree.follow (base ++ names) = target.place [] := by
  have hstep : ∀ c ∈ (names.map fun _ => .up) ++ rest, Path.IsStep c := by
    intro c hc
    rcases List.mem_append.1 hc with hc | hc
    · obtain ⟨-, -, rfl⟩ := List.mem_map.1 hc
      exact Path.isStep_up
    · exact (Path.isStep_of_mem_steps (hsteps ▸ List.mem_append_right _ hc)).1
  have hkept : dropEnding (Path.ofComponents ((names.map fun _ => .up) ++ rest)).text =
      (Path.ofComponents ((names.map fun _ => .up) ++ rest)).text := by
    rcases List.eq_nil_or_concat' rest with rfl | ⟨front, c, rfl⟩
    · rcases List.eq_nil_or_concat' names with rfl | ⟨front, s, rfl⟩
      · decide
      · rw [List.map_append, List.append_nil]
        exact dropEnding_up _
    · have hc : c ∈ target.steps := by simp [hsteps]
      by_cases hup : c = .up
      · rw [hup, ← List.append_assoc]
        exact dropEnding_up _
      · obtain ⟨s, rfl⟩ := Path.exists_name_of_mem_steps hc hup
        exact absurd List.getLast?_concat (hlast s)
  have hway : (Path.ofComponents ((names.map fun _ => .up) ++ rest)).steps =
      (names.map fun _ => .up) ++ rest :=
    Path.steps_ofComponents hstep
  rw [hkept, show Path.mk (Path.ofComponents ((names.map fun _ => .up) ++ rest)).text = _ from rfl,
    hway, List.foldl_append, FileTree.foldl_follow_up, Path.place_of_isAbsolute habsolute, hsteps,
    List.foldl_append, hbase]

end Ways

/-- The modules that export options import them from the configured files. Such an import starts
with `./` or `../`. If the directory of the module has no `..` beyond what it shares with the path
of the file, and no name on the way has a backslash, it leads from there to the file, without its
ending; where the path of the file is all shared or ends with `..`, there must be no ending to leave
out. -/
theorem place_importOf {c : ProjectConfig} (hroot : c.root.isAbsolute = true)
    (dir client server : Path) {a : Artifact} (ha : a ∈ registry) {l : Layout}
    (hl : l = .ofConfig (((c.withBuildDir dir).withClientOptions client).withServerOptions server))
    {target : Path} (htarget : l.clientOptions = some target ∨ l.serverOptions = some target) :
    (∃ rest, l.importOf a.path target = "./" ++ rest ∨ l.importOf a.path target = "../" ++ rest) ∧
      ∀ shared own rest, (l.dirOf a.path).components = shared ++ own →
        target.components = shared ++ rest →
        (∀ x ∈ own.head?, x ∉ rest.head?) → .up ∉ own → (∀ s, .name s ∈ rest → '\\' ∉ s.toList) →
        ((∃ s, rest.getLast? = some (.name s)) ∨
          dropEnding target.straight.text = target.straight.text) →
        (Path.mk (l.importOf a.path target)).place ((l.place a.path).place []).dropLast =
          (Path.mk (dropEnding target.straight.text)).place [] := by
  refine ⟨importOf_starts _ _ _, fun shared own rest hdir hcomponents hapart hup hplain hend => ?_⟩
  have hbuild : l.buildDir.isAbsolute = true := hl ▸ Path.isAbsolute_join_of_isAbsolute hroot dir
  have habsolute : target.isAbsolute = true := by
    subst hl
    rcases htarget with h | h
    · exact Option.some.inj h ▸ Path.isAbsolute_join_of_isAbsolute hroot client
    · exact Option.some.inj h ▸ Path.isAbsolute_join_of_isAbsolute hroot server
  have hjoin : l.root.join target = target := if_pos habsolute
  obtain ⟨cs, s, hcs, hsteps⟩ := components_dirOf hbuild ha
  have hrooted := Path.components_of_isAbsolute habsolute
  -- Both paths start at the root, so they share it.
  obtain ⟨sh, rfl⟩ : ∃ sh, shared = .root :: sh := by
    cases shared with
    | nil =>
      rw [List.nil_append] at hdir hcomponents
      rw [← hdir, ← hcomponents, hcs, hrooted] at hapart
      exact absurd rfl (hapart .root rfl)
    | cons x sh =>
      rw [hcs, List.cons_append] at hdir
      exact ⟨sh, by rw [(List.cons.inj hdir).1]⟩
  rw [hcs, List.cons_append] at hdir
  rw [hrooted, List.cons_append] at hcomponents
  have hsh := (List.cons.inj hdir).2
  have htargetSteps := (List.cons.inj hcomponents).2
  obtain ⟨names, rfl⟩ : ∃ names : List String, own = names.map .name := by
    refine FileTree.exists_map_name fun x hx =>
      Path.exists_name_of_mem_steps (p := l.place a.path) ?_ ?_
    · rw [hsteps, hsh]
      simp [hx]
    · exact fun h => hup (h ▸ hx)
  have hhere : ((l.place a.path).place []).dropLast = sh.foldl FileTree.follow [] ++ names := by
    have hplaced : (l.place a.path).isAbsolute = true := Path.isAbsolute_join_of_isAbsolute hbuild _
    rw [Path.place_of_isAbsolute hplaced, hsteps, hsh, List.foldl_append, List.foldl_append,
      FileTree.foldl_follow_names]
    exact List.dropLast_concat
  have hway : l.wayTo a.path target = .ofComponents ((names.map fun _ => .up) ++ rest) := by
    rw [wayTo, hjoin, hcs, hrooted, hsh, htargetSteps, ← List.cons_append, ← List.cons_append,
      Path.relativeComponents_append _ hapart, List.map_map]
    rfl
  have hbackslash : '\\' ∉ (l.wayTo a.path target).text.toList := by
    rw [hway]
    refine Path.not_mem_text_ofComponents (by decide) fun x hx => ?_
    rcases List.mem_append.1 hx with hx | hx
    · obtain ⟨-, -, rfl⟩ := List.mem_map.1 hx
      decide
    · by_cases hxup : x = .up
      · rw [hxup]
        decide
      · obtain ⟨n, rfl⟩ :=
          Path.exists_name_of_mem_steps (htargetSteps ▸ List.mem_append_right _ hx) hxup
        exact hplain n hx
  rw [place_importOf_eq hbackslash, hway, hhere]
  by_cases hlast : ∃ f, rest.getLast? = some (.name f)
  · obtain ⟨f, hf⟩ := hlast
    obtain ⟨rest, rfl⟩ := List.getLast?_eq_some_iff.1 hf
    exact foldl_follow_way_name (by rw [htargetSteps, List.append_assoc]) habsolute rfl
  · rw [hend.resolve_left hlast,
      foldl_follow_way_up htargetSteps habsolute rfl fun f hf => hlast ⟨f, hf⟩]
    exact (Path.place_straight target).symm

/-- A layout with the options of clients in the project, and a build directory. -/
def layoutAt (root dir : String) : Layout :=
  .ofConfig ((((ProjectConfig.new "https://api.example.com/graphql" ⟨root⟩).withBuildDir
    ⟨dir⟩).withClientOptions ⟨"app/client-options.ts"⟩).withServerOptions
    ⟨"../server-options.js"⟩)

theorem place_importOf_sample :
    ∃ l target, l = layoutAt "/work/../p" "out" ∧ l.clientOptions = some target ∧
      l.importOf Artifact.clientOptionsPath target = "../../app/client-options" ∧
      (Path.mk (l.importOf Artifact.clientOptionsPath target)).place
        ((l.place Artifact.clientOptionsPath).place []).dropLast =
        ["p", "app", "client-options"] := by
  obtain ⟨a, ha, hpath⟩ : ∃ a ∈ registry, a.path = Artifact.clientOptionsPath :=
    ⟨registry[7], List.getElem_mem _, rfl⟩
  refine ⟨_, ⟨"/work/../p/app/client-options.ts"⟩, rfl, rfl, rfl, ?_⟩
  rw [← hpath]
  have himport := place_importOf (c := .new "https://api.example.com/graphql" ⟨"/work/../p"⟩) rfl
    ⟨"out"⟩ ⟨"app/client-options.ts"⟩ ⟨"../server-options.js"⟩ ha rfl (.inl rfl)
  refine (himport.2 [.root, .name "work", .up, .name "p"] [.name "out", .name "graphql-middleware"]
    [.name "app", .name "client-options.ts"] ?_ rfl ?_ ?_ ?_ (.inl ⟨_, rfl⟩)).trans rfl
  · rw [hpath]
    rfl
  · simp
  · simp
  · simp

/-- Where the build directory is outside of the project, its `..` is counted as a directory to go up
from, and the path that the options are imported by leads elsewhere. -/
theorem exists_import_astray :
    ∃ target, (layoutAt "/p" "../out").clientOptions = some target ∧
      (layoutAt "/p" "../out").importOf Artifact.clientOptionsPath target =
      "../../../app/client-options" ∧
      (Path.mk (dropEnding target.straight.text)).place [] = ["p", "app", "client-options"] ∧
      (Path.mk ((layoutAt "/p" "../out").importOf Artifact.clientOptionsPath target)).place
        (((layoutAt "/p" "../out").place Artifact.clientOptionsPath).place []).dropLast ≠
          (Path.mk (dropEnding target.straight.text)).place [] := by
  refine ⟨_, rfl, rfl, rfl, fun h => ?_⟩
  have hplaces : ["app", "client-options"] = ["p", "app", "client-options"] := h
  simp at hplaces

end Layout

end OperationGate
