import Mathlib.Data.Set.List
import OperationGate.Proofs.Project.Sources
import OperationGate.Proofs.Text.Parts

/-!
# All documents, and only these

Documents are sorted by the paths that lead to them, after they were listed by the names on the way.
A sort that is stable leaves those of one path as they were listed (`pairwise_mergeSort`), so the
order of the documents is determined even where two files have one path: a backslash in a name is
read as a slash, and by nothing else do the paths of two files become one (`exists_backslash`). Main
statement: `Sources.spec_collectDocuments`.
-/

namespace OperationGate

/-- What is sorted is in the new order, and in the old one where the new one makes no difference. -/
theorem pairwise_mergeSort {α : Type} {le : α → α → Bool} {r : α → α → Prop} {xs : List α}
    (htrans : ∀ a b c, le a b = true → le b c = true → le a c = true)
    (htotal : ∀ a b, (le a b || le b a) = true) (h : xs.Pairwise r) :
    (xs.mergeSort le).Pairwise fun a b => le a b = true ∧ (le b a = true → r a b) := by
  have hsorted : (xs.mergeSort le).Pairwise fun a b => le a b = true :=
    List.pairwise_mergeSort htrans htotal xs
  rw [List.pairwise_iff_forall_sublist] at hsorted ⊢
  intro a b hab
  refine ⟨hsorted hab, fun hba => ?_⟩
  -- The elements that are alike to the two make a sorted list, which is therefore kept as it is.
  let alike := fun c => le c a && le a c
  have hkept : (xs.filter alike).Sublist (xs.mergeSort le) := by
    refine List.sublist_mergeSort htrans htotal (List.pairwise_filter.2 ?_) List.filter_sublist
    refine List.pairwise_of_forall fun c d hc hd => ?_
    rw [Bool.and_eq_true] at hc hd
    exact htrans _ _ _ hc.1 hd.2
  have heq : xs.filter alike = (xs.mergeSort le).filter alike := by
    have hsub := hkept.filter alike
    rw [List.filter_filter] at hsub
    simp only [Bool.and_self] at hsub
    exact hsub.eq_of_length ((List.mergeSort_perm xs le).filter alike).length_eq.symm
  have hpair : [a, b].Sublist (xs.filter alike) := by
    have hself : le a a = true := by simpa using htotal a a
    have hfilter := hab.filter alike
    rwa [List.filter_cons_of_pos (by simp [alike, hself]),
      List.filter_cons_of_pos (by simp [alike, hba, hsorted hab]),
      List.filter_nil, ← heq] at hfilter
  exact List.pairwise_iff_forall_sublist.1 h (hpair.trans List.filter_sublist)

namespace Sources

variable {w : Workspace} {tree : FileTree} {root : Path} {here dir a b rest : Address}
  {patterns inline : List String} {globs : List Glob}

/-! ## Paths below a directory -/

/-- Tells that a text can be the name of a file. -/
structure IsFileName (name : String) : Prop where
  nonempty : name ≠ ""
  whole : '/' ∉ name.toList

lemma joinWith_inj (ha : ∀ name ∈ a, IsFileName name) (hb : ∀ name ∈ b, IsFileName name)
    (h : Text.joinWith "/" a = Text.joinWith "/" b) : a = b := by
  have hsplit : ∀ {c : Address}, (∀ name ∈ c, IsFileName name) → c ≠ [] →
      Text.splitAt '/' (Text.joinWith "/" c) = c :=
    fun hc => Text.splitAt_joinWith fun name hname => (hc name hname).whole
  have hempty : ∀ {c : Address}, (∀ name ∈ c, IsFileName name) →
      Text.joinWith "/" c = "" → c = [] := by
    intro c hc hjoin
    by_contra hne
    have hone := hsplit hc hne
    rw [hjoin, Text.splitAt_empty] at hone
    exact (hc "" (hone ▸ List.mem_singleton_self "")).nonempty rfl
  by_cases hne : a = []
  · subst hne
    exact (hempty hb h.symm).symm
  · by_cases hne' : b = []
    · subst hne'
      exact hempty ha h
    · rw [← hsplit ha hne, ← hsplit hb hne', h]

/-- Files of one path are one, unless a name holds a backslash. -/
theorem exists_backslash (ha : ∀ name ∈ a, IsFileName name) (hb : ∀ name ∈ b, IsFileName name)
    (h : pathBelow a = pathBelow b) (hne : a ≠ b) : ∃ name ∈ a ++ b, '\\' ∈ name.toList := by
  by_contra hnone
  have hplain : ∀ {c : Address}, (∀ name ∈ c, name ∈ a ++ b) →
      pathBelow c = Text.joinWith "/" c := by
    intro c hc
    refine Text.replaceChar_eq_self fun hmem => ?_
    rw [Text.toList_joinWith] at hmem
    rcases Text.mem_intercalate hmem with hslash | ⟨part, hpart, hback⟩
    · exact absurd hslash (by decide)
    · obtain ⟨name, hname, rfl⟩ := List.mem_map.1 hpart
      exact hnone ⟨name, hc name hname, hback⟩
  rw [hplain fun _ => List.mem_append_left b, hplain fun _ => List.mem_append_right a] at h
  exact hne (joinWith_inj ha hb h)

/-! ## The files that are picked up -/

/-- Tells whether a file below the project is taken for a document. -/
def picks (globs : List Glob) (rest : Address) : Bool :=
  globs.any (·.accepts (pathBelow rest)) && !rest.dropLast.any isPassedOver

lemma picks_eq_true_iff (hglobs : patternsOf patterns = .ok globs) :
    picks globs rest = true ↔ IsPickedUp patterns rest := by
  rw [picks, Bool.and_comm, Bool.and_eq_true, Bool.not_eq_true', List.any_eq_true, IsPickedUp]
  refine and_congr_right fun _ => ?_
  constructor
  · rintro ⟨g, hg, haccepts⟩
    obtain ⟨text, htext, hof⟩ := exists_of_mem_patternsOf hglobs hg
    exact ⟨text, htext, g, hof, haccepts⟩
  · rintro ⟨text, htext, g, hof, haccepts⟩
    exact ⟨g, (mem_iff_of_mapM_ok hglobs).2 ⟨text, htext, by rw [hof]⟩, haccepts⟩

lemma exists_patternsOf (h : ∀ text ∈ patterns, Glob.ofString? text ≠ none) :
    ∃ globs, patternsOf patterns = .ok globs := by
  refine exists_mapM_eq_ok_iff.2 fun text htext => ?_
  obtain ⟨g, hg⟩ := Option.ne_none_iff_exists'.1 (h text htext)
  exact ⟨g, by rw [hg]⟩

/-- The files that are picked up make the documents, in the order of their paths. -/
lemma foundBelow_eq {files : List (Address × String)}
    (h : (tree.filesBelow dir).filter (fun e => picks globs e.1) =
      files.map fun e => (e.1, .text e.2)) :
    foundBelow tree dir globs =
    .ok ((files.mergeSort fun e f => decide (pathBelow e.1 ≤ pathBelow f.1)).map
      fun e => ⟨pathBelow e.1, e.2⟩) := by
  have hcandidates : (candidates tree dir).filter (fun c => globs.any (·.accepts c.1)) =
      files.map fun e => (pathBelow e.1, .text e.2) := by
    rw [candidates, List.filter_map, List.filter_filter]
    exact (congrArg _ h).trans List.map_map
  have hdocs : (files.map fun e => (pathBelow e.1, FileNode.text e.2)).mapM
      (fun c => documentOf c.1 c.2) = .ok (files.map fun e => ⟨pathBelow e.1, e.2⟩) := by
    rw [mapM_eq_ok_iff, List.forall₂_map_left_iff, List.forall₂_map_right_iff]
    exact List.forall₂_same.2 fun _ _ => rfl
  have hsort : ((files.mergeSort fun e f => decide (pathBelow e.1 ≤ pathBelow f.1)).map
      fun e => SourceDocument.mk (pathBelow e.1) e.2) =
        (files.map fun e => SourceDocument.mk (pathBelow e.1) e.2).mergeSort fun a b =>
        decide (a.path ≤ b.path) :=
    List.map_mergeSort fun _ _ _ _ => rfl
  rw [foundBelow, hcandidates, hdocs, hsort]
  rfl

lemma pairwise_of_picks {files : List (Address × String)}
    (h : (tree.filesBelow dir).filter (fun e => picks globs e.1) =
      files.map fun e => (e.1, .text e.2)) :
    files.Pairwise fun e f => FileTree.isBefore e.1 f.1 = true ∧ e.1 ≠ f.1 := by
  have hfiles := (tree.pairwise_filesBelow dir).filter fun e => picks globs e.1
  rw [h, List.pairwise_map] at hfiles
  exact hfiles

/-- The files that are picked up are found in the order of their paths, those of one path as they
were listed. -/
lemma exists_found (hglobs : patternsOf patterns = .ok globs)
    (hroot : ∃ n, tree.at? here root = .ok (dir, n))
    (htext : ∀ rest n, tree.node? (dir ++ rest) = some n → n ≠ .directory →
      IsPickedUp patterns rest → ∃ source, n = .text source) :
    ∃ files : List (Address × String),
      found tree here root globs = .ok (files.map fun e => ⟨pathBelow e.1, e.2⟩) ∧
      (∀ rest source, (rest, source) ∈ files ↔
        tree.node? (dir ++ rest) = some (.text source) ∧ IsPickedUp patterns rest) ∧
      files.Pairwise fun e f => pathBelow e.1 ≤ pathBelow f.1 ∧
        (pathBelow f.1 ≤ pathBelow e.1 → FileTree.isBefore e.1 f.1 = true ∧ e.1 ≠ f.1) := by
  obtain ⟨files, hfiles⟩ : ∃ files : List (Address × String),
      files.map (fun e => (e.1, FileNode.text e.2)) = (tree.filesBelow dir).filter fun e =>
      picks globs e.1 := by
    change _ ∈ Set.range (List.map _)
    rw [Set.range_list_map]
    rintro ⟨rest, n⟩ hmem
    rw [List.mem_filter, FileTree.mem_filesBelow_iff, picks_eq_true_iff hglobs] at hmem
    obtain ⟨source, rfl⟩ := htext rest n hmem.1.1 hmem.1.2 hmem.2
    exact ⟨(rest, source), rfl⟩
  obtain ⟨n, hn⟩ := hroot
  refine ⟨files.mergeSort fun e f => decide (pathBelow e.1 ≤ pathBelow f.1), ?_,
    fun rest source => ?_, ?_⟩
  · rw [found, hn]
    exact foundBelow_eq hfiles.symm
  · have hmem : (rest, source) ∈ files ↔
        (rest, FileNode.text source) ∈ (tree.filesBelow dir).filter fun e => picks globs e.1 := by
      rw [← hfiles]
      simp
    rw [List.mem_mergeSort, hmem, List.mem_filter, FileTree.mem_filesBelow_iff,
      picks_eq_true_iff hglobs]
    simp
  · let le (e f : Address × String) : Bool := decide (pathBelow e.1 ≤ pathBelow f.1)
    have htrans : ∀ e f g, le e f = true → le f g = true → le e g = true := fun _ _ _ h h' =>
      decide_eq_true (String.le_trans (of_decide_eq_true h) (of_decide_eq_true h'))
    have htotal : ∀ e f, (le e f || le f e) = true := fun e f => by
      simpa [le] using String.le_total (pathBelow e.1) (pathBelow f.1)
    have hsorted := pairwise_mergeSort htrans htotal (pairwise_of_picks hfiles.symm)
    simpa only [le, decide_eq_true_eq] using hsorted

lemma collected_of_found {docs : List SourceDocument} (hglobs : patternsOf patterns = .ok globs)
    (hsome : patterns ≠ []) (hfound : found tree here root globs = .ok docs) :
    collected tree here root patterns inline = .ok (docs ++ inlineDocuments inline) := by
  have hlength : patterns.length = globs.length := (mapM_eq_ok_iff.1 hglobs).length_eq
  have hne : ¬globs.isEmpty = true := by
    rw [List.isEmpty_iff_length_eq_zero, ← hlength]
    simpa using hsome
  refine bind_eq_ok.2 ⟨globs, hglobs, ?_⟩
  rw [if_neg hne]
  exact bind_eq_ok.2 ⟨docs, hfound, rfl⟩

/-- Documents are all files that some pattern accepts and that are not passed over, each once, in
the order of their paths and then in that of their names, and after them the texts that are given,
under their numbers. -/
theorem spec_collectDocuments (hpatterns : ∀ text ∈ patterns, Glob.ofString? text ≠ none)
    (hroot : patterns ≠ [] → ∃ n, w.tree.at? w.here root = .ok (dir, n))
    (hnames : ∀ rest n, w.tree.node? (dir ++ rest) = some n → ∀ name ∈ rest, IsFileName name)
    (htext : ∀ rest n, w.tree.node? (dir ++ rest) = some n → n ≠ .directory →
      IsPickedUp patterns rest → ∃ source, n = .text source) :
    ∃ files : List (Address × String),
      Work.Reads (collectDocuments root patterns inline) w (.ok
        (files.map (fun e => ⟨pathBelow e.1, e.2⟩) ++
          inline.mapIdx fun i source => ⟨"<inline-" ++ toString (i + 1) ++ ">", source⟩)) ∧
      (∀ rest source, (rest, source) ∈ files ↔
        w.tree.node? (dir ++ rest) = some (.text source) ∧ IsPickedUp patterns rest) ∧
      (files.map (·.1)).Nodup ∧
      files.Pairwise fun e f => pathBelow e.1 < pathBelow f.1 ∨ pathBelow e.1 = pathBelow f.1 ∧
        FileTree.isBefore e.1 f.1 = true ∧ ∃ name ∈ e.1 ++ f.1, '\\' ∈ name.toList := by
  obtain ⟨globs, hglobs⟩ := exists_patternsOf hpatterns
  have hreads := reads_collectDocuments root patterns inline w
  by_cases hnone : patterns = []
  · subst hnone
    refine ⟨[], hreads, fun rest source => ?_, List.nodup_nil, .nil⟩
    simp [IsPickedUp]
  · obtain ⟨files, hfound, hmem, hsorted⟩ := exists_found hglobs (hroot hnone) htext
    have hnamed : ∀ e ∈ files, ∀ name ∈ e.1, IsFileName name :=
      fun e he => hnames _ _ ((hmem e.1 e.2).1 he).1
    have hapart : files.Pairwise fun e f => e.1 ≠ f.1 := by
      refine hsorted.imp ?_
      rintro e f ⟨-, hlisted⟩ heq
      have hle : pathBelow f.1 ≤ pathBelow e.1 := congrArg pathBelow heq ▸ String.le_refl _
      exact (hlisted hle).2 heq
    rw [collected_of_found hglobs hnone hfound] at hreads
    refine ⟨files, hreads, hmem, List.pairwise_map.2 hapart, ?_⟩
    refine hsorted.imp_of_mem fun {e f} he hf h => ?_
    by_cases hle : pathBelow f.1 ≤ pathBelow e.1
    · have hpath := String.le_antisymm h.1 hle
      obtain ⟨hbefore, hne⟩ := h.2 hle
      exact .inr ⟨hpath, hbefore, exists_backslash (hnamed e he) (hnamed f hf) hpath hne⟩
    · exact .inl (String.not_le.1 hle)

/-! ## Two files of one path -/

/-- A file in a directory, and a file beside the directory whose name holds a backslash. -/
def slashTree : FileTree :=
  ((FileTree.empty.put ["x"] .directory).put ["x", "y.graphql"] (.text "B")).put
    ["x\\y.graphql"] (.text "A")

/-- What holds of the root and of all entries holds of all that is in a tree. -/
lemma forall_node? {p : Address → FileNode → Prop} (hroot : p [] .directory)
    (h : ∀ e ∈ tree.entries, p e.1 e.2) (rest : Address) (n : FileNode)
    (hn : tree.node? ([] ++ rest) = some n) : p rest n := by
  by_cases hrest : rest = []
  · subst hrest
    rw [List.append_nil, FileTree.node?, if_pos rfl] at hn
    cases hn
    exact hroot
  · exact h (rest, n) (FileTree.mem_entries_iff.2 ⟨hrest, hn⟩)

lemma ofString?_text : Glob.ofString? "**" = some ⟨[.piece .text]⟩ := by
  decide +kernel

lemma at?_slashTree : slashTree.at? [] ⟨"."⟩ = .ok ([], .directory) := by
  rw [FileTree.at?_eq_ok_iff]
  decide

theorem spec_collectDocuments_sample :
    ∃ files : List (Address × String),
      Work.Reads (collectDocuments ⟨"."⟩ ["**"] ["query"]) (.ofTree slashTree []) (.ok
        (files.map (fun e => ⟨pathBelow e.1, e.2⟩) ++ [⟨"<inline-1>", "query"⟩])) ∧
      (["x", "y.graphql"], "B") ∈ files ∧ (["x\\y.graphql"], "A") ∈ files ∧
      (files.map (·.1)).Nodup := by
  have hpatterns : ∀ text ∈ ["**"], Glob.ofString? text ≠ none := by simp [ofString?_text]
  have hnames : ∀ rest n, slashTree.node? ([] ++ rest) = some n → ∀ name ∈ rest,
      IsFileName name := by
    have hall : ∀ e ∈ slashTree.entries, ∀ name ∈ e.1, name ≠ "" ∧ '/' ∉ name.toList := by decide
    exact forall_node? nofun fun e he name hname =>
      ⟨(hall e he name hname).1, (hall e he name hname).2⟩
  have htext : ∀ rest n, slashTree.node? ([] ++ rest) = some n → n ≠ .directory →
      IsPickedUp ["**"] rest → ∃ source, n = .text source := by
    have hall : ∀ e ∈ slashTree.entries, e.2 = .directory ∨ e.2 = .text "A" ∨
        e.2 = .text "B" := by decide
    refine forall_node? (fun h => absurd rfl h) fun e he hfile _ => ?_
    rcases hall e he with hdir | htext | htext
    · exact absurd hdir hfile
    · exact ⟨_, htext⟩
    · exact ⟨_, htext⟩
  have hpicked : ∀ rest ∈ ([["x", "y.graphql"], ["x\\y.graphql"]] : List Address), IsPickedUp
      ["**"] rest := by
    intro rest hrest
    have hall : ∀ rest ∈ ([["x", "y.graphql"], ["x\\y.graphql"]] : List Address),
        rest.dropLast.any isPassedOver = false ∧
        Glob.accepts ⟨[.piece .text]⟩ (pathBelow rest) = true := by decide
    exact ⟨(hall rest hrest).1, _, List.mem_singleton_self _, _, ofString?_text,
      (hall rest hrest).2⟩
  have hroot : ["**"] ≠ [] → ∃ n, slashTree.at? [] ⟨"."⟩ = .ok ([], n) :=
    fun _ => ⟨_, at?_slashTree⟩
  let w : Workspace := .ofTree slashTree []
  obtain ⟨files, hreads, hmem, hnodup, -⟩ :=
    @spec_collectDocuments w ⟨"."⟩ [] ["**"] ["query"] hpatterns hroot hnames htext
  exact ⟨files, hreads, (hmem _ _).2 ⟨by decide, hpicked _ (by decide)⟩,
    (hmem _ _).2 ⟨by decide, hpicked _ (by decide)⟩, hnodup⟩

/-- A backslash in a name is read as a slash, so the paths of documents need not be different. -/
theorem not_ascending_slashTree :
    Work.Reads (collectDocuments ⟨"."⟩ ["**"] []) (.ofTree slashTree [])
      (.ok [⟨"x/y.graphql", "B"⟩, ⟨"x/y.graphql", "A"⟩]) ∧
      ¬[SourceDocument.mk "x/y.graphql" "B", ⟨"x/y.graphql", "A"⟩].Pairwise fun a b =>
      a.path < b.path := by
  have hglobs : patternsOf ["**"] = .ok [⟨[.piece .text]⟩] :=
    mapM_eq_ok_iff.2 (.cons (by rw [ofString?_text]) .nil)
  have hpicks : (slashTree.filesBelow []).filter (fun e => picks [⟨[.piece .text]⟩] e.1) =
      [(["x", "y.graphql"], "B"), (["x\\y.graphql"], "A")].map fun e => (e.1, .text e.2) := by
    have hbelow : slashTree.filesBelow [] =
        [(["x", "y.graphql"], .text "B"), (["x\\y.graphql"], .text "A")] :=
      List.mergeSort_of_pairwise (by decide)
    rw [hbelow]
    decide
  have hfound : found slashTree [] ⟨"."⟩ [⟨[.piece .text]⟩] =
      .ok [⟨"x/y.graphql", "B"⟩, ⟨"x/y.graphql", "A"⟩] := by
    rw [found, at?_slashTree]
    refine (foundBelow_eq hpicks).trans ?_
    rw [List.mergeSort_of_pairwise (by decide)]
    decide
  have hreads := reads_collectDocuments ⟨"."⟩ ["**"] [] (.ofTree slashTree [])
  have hcollected : collected slashTree [] ⟨"."⟩ ["**"] [] =
      .ok [⟨"x/y.graphql", "B"⟩, ⟨"x/y.graphql", "A"⟩] :=
    collected_of_found hglobs (by decide) hfound
  exact ⟨hcollected ▸ hreads, by decide⟩

end Sources

end OperationGate
