import Mathlib.Data.List.Infix
import OperationGate.Files.Tree
import OperationGate.Proofs.Text.Parts

/-!
# The places that paths lead to

The names and dots of a path lead from a directory to one address, its place, whatever is in the
tree. A tree decides only whether the way can be gone: following a path gives its place or fails
(`eq_place_of_locate`), and what could be gone can still be gone after directories were added
(`locate_of_keepsDirectories`).

A path that leads on, and not back with `..`, from the first directory that is not there
(`IsForward`) behaves as one expects: if it cannot be gone, nothing is at its place
(`node?_place_eq_none`).
-/

namespace OperationGate

namespace Path

/-- The components of a path but for what is at its front. -/
def steps (p : Path) : List Component :=
  p.pieces.filterMap component?

/-- Where the steps of a path start. -/
def start (p : Path) (here : Address) : Address :=
  if p.isAbsolute then [] else here

/-- The address that the steps of a path lead to. -/
def place (p : Path) (here : Address) : Address :=
  p.steps.foldl FileTree.follow (p.start here)

/-- A part between slashes makes a name or leads up. -/
lemma cases_of_component? {piece : String} {c : Component} (h : component? piece = some c) :
    c = .up ∨ c = .name piece := by
  unfold component? at h
  split at h
  · cases h
  · split at h
    · exact .inl (Option.some.inj h).symm
    · exact .inr (Option.some.inj h).symm

lemma exists_name_of_mem_steps {p : Path} {c : Component} (h : c ∈ p.steps) (hup : c ≠ .up) :
    ∃ s, c = .name s := by
  obtain ⟨piece, -, hc⟩ := List.mem_filterMap.1 h
  exact ⟨piece, (cases_of_component? hc).resolve_left hup⟩

/-- Tells that a part between slashes is a name, and not too long for one. -/
def IsName (piece : String) : Prop :=
  component? piece = some (.name piece) ∧ piece.utf8ByteSize ≤ FileTree.maxNameLength

instance (piece : String) : Decidable (IsName piece) :=
  inferInstanceAs (Decidable (_ ∧ _))

lemma steps_of_names {p : Path} (h : ∀ s ∈ p.pieces, IsName s) : p.steps = p.pieces.map .name := by
  rw [steps, ← List.filterMap_eq_map]
  exact List.filterMap_congr fun s hs => (h s hs).1

/-! ## Paths below paths -/

lemma steps_slash (s t : String) :
    (Path.mk (s ++ "/" ++ t)).steps = (Path.mk s).steps ++ (Path.mk t).steps := by
  rw [steps, steps, steps, pieces, pieces, pieces, ← List.filterMap_append]
  exact congrArg _ (Text.splitAt_append '/' s t)

lemma steps_empty : (Path.mk "").steps = [] := by
  decide

variable {p q : Path}

lemma steps_join (hq : q.isAbsolute = false) : (p.join q).steps = p.steps ++ q.steps := by
  obtain ⟨s⟩ := p
  rw [join, if_neg (by simp [hq])]
  by_cases hs : s = ""
  · simp [hs, steps_empty]
  by_cases hlast : s.toList.getLast? = some '/'
  · obtain ⟨front, hfront⟩ := List.getLast?_eq_some_iff.1 hlast
    have hslash : s = String.ofList front ++ "/" ++ "" := by
      rw [← String.toList_inj, hfront]
      simp
    rw [if_pos (by simp [hlast]), hslash, steps_slash, steps_empty, List.append_nil,
      String.append_empty]
    exact steps_slash _ _
  · rw [if_neg (by simp [hs, hlast])]
    exact steps_slash _ _

lemma isAbsolute_join (hq : q.isAbsolute = false) : (p.join q).isAbsolute = p.isAbsolute := by
  obtain ⟨s⟩ := p
  rw [join, if_neg (by simp [hq])]
  by_cases hs : s = ""
  · rw [if_pos (by simp [hs]), hs, String.empty_append]
    exact hq
  have hhead : ∀ t : String, (s ++ t).toList.head? = s.toList.head? := by
    intro t
    rw [String.toList_append, List.head?_append_of_ne_nil _ (by simpa using hs)]
  split
  · rw [isAbsolute, isAbsolute, hhead]
  · rw [isAbsolute, isAbsolute, String.append_assoc, hhead]

/-- There is one slash where two paths are joined, unless more end the first. -/
lemma text_join (hq : q.isAbsolute = false) (hp : p.text ≠ "") :
    (∃ s, p.text = s ++ "/" ∧ (p.join q).text = s ++ "/" ++ q.text) ∨
    (p.join q).text = p.text ++ "/" ++ q.text := by
  rw [join, if_neg (by simp [hq])]
  by_cases hlast : p.text.toList.getLast? = some '/'
  · obtain ⟨front, hfront⟩ := List.getLast?_eq_some_iff.1 hlast
    have hslash : p.text = String.ofList front ++ "/" := by
      rw [← String.toList_inj, hfront]
      simp
    rw [if_pos (by simp [hlast])]
    exact .inl ⟨_, hslash, by rw [hslash]⟩
  · rw [if_neg (by simp [hp, hlast])]
    exact .inr rfl

/-- A path below another leads on from its place. -/
lemma place_join (hq : q.isAbsolute = false) (here : Address) :
    (p.join q).place here = q.steps.foldl FileTree.follow (p.place here) := by
  rw [place, place, steps_join hq, List.foldl_append, start, start, isAbsolute_join hq]

/-! ## The directory that holds a path -/

lemma isAbsolute_iff : p.isAbsolute = true ↔ p.pieces.head? = some "" ∧ p.text ≠ "" := by
  obtain ⟨s⟩ := p
  rw [isAbsolute, pieces, Text.splitAt, List.head?_map,
    ne_eq, ← String.toList_eq_nil_iff, beq_iff_eq]
  cases hs : s.toList with
  | nil => simp
  | cons c cs =>
    rw [List.head?_cons, List.splitOn, List.splitOnP_cons_eq_if_modifyHead]
    by_cases hc : c = '/'
    · simp [hc]
    · obtain ⟨first, rest, hsplit⟩ :=
        List.exists_cons_of_ne_nil (List.splitOnP_ne_nil (· == '/') cs)
      simp [hc, hsplit]

lemma pieces_ne_nil (p : Path) : p.pieces ≠ [] := by
  rw [pieces, Text.splitAt, ne_eq, List.map_eq_nil_iff]
  exact List.splitOnP_ne_nil _ _

lemma filterMap_of_idle {pieces : List String} (h : ∀ s ∈ pieces, isIdle s = true) :
    pieces.filterMap component? = [] := by
  rw [List.filterMap_eq_nil_iff]
  intro s hs
  rw [component?, if_pos (h s hs)]

/-- Parts come apart into those before the last that is not idle, this one, and idle ones. -/
lemma exists_last_of_dropWhile {pieces above : List String} {s : String}
    (h : pieces.reverse.dropWhile isIdle = s :: above) :
    ∃ idle, pieces = above.reverse ++ s :: idle ∧ (∀ r ∈ idle, isIdle r = true) ∧
      isIdle s = false := by
  refine ⟨(pieces.reverse.takeWhile isIdle).reverse, ?_, ?_, ?_⟩
  · have hsplit := List.takeWhile_append_dropWhile (p := isIdle) (l := pieces.reverse)
    rw [h] at hsplit
    simpa using (congrArg List.reverse hsplit).symm
  · intro r hr
    exact List.mem_takeWhile_imp (List.mem_reverse.1 hr)
  · have hhead := List.head?_dropWhile_not isIdle pieces.reverse
    rw [h] at hhead
    simpa using hhead

lemma isIdle_of_dropWhile_eq_nil {pieces : List String} (h : pieces.reverse.dropWhile isIdle = []) :
    ∀ s ∈ pieces, isIdle s = true := by
  intro s hs
  exact List.dropWhile_eq_nil_iff.1 h s (List.mem_reverse.2 hs)

/-- A component is made by a part that is not idle. -/
lemma exists_component {s : String} (h : isIdle s = false) : ∃ c, component? s = some c := by
  unfold component?
  rw [if_neg (by simp [h])]
  split
  · exact ⟨_, rfl⟩
  · exact ⟨_, rfl⟩

lemma components_eq (p : Path) : p.components =
    if p.isAbsolute then .root :: p.steps else if p.pieces.head? = some "." then
      .here :: p.steps else p.steps :=
  rfl

/-- The front of a path is told by its first part. -/
lemma components_congr {dir : Path} {above : List Component}
    (habsolute : p.isAbsolute = dir.isAbsolute) (hhead : p.pieces.head? = dir.pieces.head?)
    (hsteps : p.steps = dir.steps ++ above) : p.components = dir.components ++ above := by
  rw [components_eq, components_eq, habsolute, hhead, hsteps]
  split
  · rfl
  · split
    · rfl
    · rfl

/-- A path of idle parts is the root, or a dot if it has a text. -/
lemma components_of_idle (htext : p.text ≠ "") (hroot : p.components ≠ [.root])
    (h : ∀ s ∈ p.pieces, isIdle s = true) : p.isAbsolute = false ∧ p.components = [.here] := by
  have hsteps : p.steps = [] := filterMap_of_idle h
  have hrelative : p.isAbsolute = false := by
    cases habsolute : p.isAbsolute with
    | false => rfl
    | true => exact absurd (by rw [components_eq, if_pos habsolute, hsteps]) hroot
  refine ⟨hrelative, ?_⟩
  obtain ⟨s, rest, hpieces⟩ := List.exists_cons_of_ne_nil p.pieces_ne_nil
  have hs : isIdle s = true := h s (hpieces ▸ List.mem_cons_self)
  rw [isIdle, Bool.or_eq_true, decide_eq_true_eq, decide_eq_true_eq] at hs
  rcases hs with rfl | rfl
  · have habsolute := isAbsolute_iff.2 ⟨by rw [hpieces]; rfl, htext⟩
    rw [hrelative] at habsolute
    cases habsolute
  · rw [components_eq, hrelative, if_neg Bool.false_ne_true, hpieces,
      if_pos List.head?_cons, hsteps]

/-- A path whose last part but idle ones follows others is that of the directory, which they make,
and this part. -/
lemma components_of_above {dir : Path} {above idle idle' : List String} {r s : String}
    {c : Component} (hpieces : p.pieces = above ++ r :: idle' ++ s :: idle)
    (hidle : ∀ s ∈ idle, isIdle s = true) (hidle' : ∀ s ∈ idle', isIdle s = true)
    (hr : isIdle r = false) (hc : component? s = some c) (htext : p.text ≠ "")
    (hdir : dir.pieces = above ++ [r]) : p.components = dir.components ++ [c] := by
  have hhead : p.pieces.head? = dir.pieces.head? := by
    rw [hpieces, hdir]
    cases above with
    | nil => rfl
    | cons => rfl
  have hdirtext : dir.text ≠ "" := by
    intro he
    have hempty : dir.pieces = [""] := by
      rw [pieces, he]
      exact Text.splitAt_empty '/'
    have hmem : r ∈ [""] := by
      rw [← hempty, hdir]
      simp
    rw [List.mem_singleton.1 hmem] at hr
    cases hr
  refine components_congr ?_ hhead ?_
  · rw [Bool.eq_iff_iff, isAbsolute_iff, isAbsolute_iff, hhead]
    simp [htext, hdirtext]
  · obtain ⟨d, hd⟩ := exists_component hr
    rw [steps, steps, hpieces, hdir, List.filterMap_append, List.filterMap_append,
      List.filterMap_append, List.filterMap_cons_some hc, filterMap_of_idle hidle,
      List.filterMap_cons_some hd, filterMap_of_idle hidle',
      List.filterMap_cons_some hd, List.filterMap_nil]

/-- The directory that holds a path of one step is its front. -/
lemma components_of_single {dir : Path} {c : Component} (hsteps : p.steps = [c])
    (h : (if p.isAbsolute then some ⟨"/"⟩ else if p.components.length = 2 then some ⟨"."⟩
      else some ⟨""⟩) = some dir) :
    p.components = dir.components ++ [c] := by
  rw [components_eq, hsteps] at h ⊢
  cases habsolute : p.isAbsolute with
  | true =>
    rw [habsolute] at h
    cases h
    rfl
  | false =>
    rw [habsolute] at h
    by_cases hdot : p.pieces.head? = some "."
    · rw [if_pos hdot] at h ⊢
      cases h
      rfl
    · rw [if_neg hdot] at h ⊢
      cases h
      rfl

/-- The directory that holds a path has all its components but the last. -/
lemma components_parent? {dir : Path} (h : p.parent? = some dir) :
    ∃ c, p.components = dir.components ++ [c] := by
  unfold parent? at h
  split at h
  · cases h
  next hparts =>
    rw [Bool.or_eq_true, not_or, decide_eq_true_eq, beq_iff_eq] at hparts
    obtain ⟨htext, hroot⟩ := hparts
    cases hlast : p.pieces.reverse.dropWhile isIdle with
    | nil =>
      obtain ⟨hrelative, hdot⟩ := components_of_idle htext hroot (isIdle_of_dropWhile_eq_nil hlast)
      rw [hlast, hrelative, hdot] at h
      cases h
      exact ⟨.here, hdot⟩
    | cons s above =>
      obtain ⟨idle, hpieces, hidle, hs⟩ := exists_last_of_dropWhile hlast
      obtain ⟨c, hc⟩ := exists_component hs
      refine ⟨c, ?_⟩
      cases hnext : above.dropWhile isIdle with
      | nil =>
        have hnone : above.reverse.filterMap component? = [] :=
          filterMap_of_idle (isIdle_of_dropWhile_eq_nil (by rwa [List.reverse_reverse]))
        have hsteps : p.steps = [c] := by
          rw [steps, hpieces, List.filterMap_append, List.filterMap_cons_some hc,
            filterMap_of_idle hidle, hnone]
          rfl
        rw [hlast, List.tail_cons, hnext] at h
        exact components_of_single hsteps h
      | cons r above' =>
        obtain ⟨idle', habove, hidle', hr⟩ :=
          @exists_last_of_dropWhile above.reverse _ _ (by rwa [List.reverse_reverse])
        rw [hlast, List.tail_cons, hnext] at h
        cases h
        rw [habove] at hpieces
        apply components_of_above hpieces hidle hidle' hr hc htext
        have hslash : ∀ part ∈ (r :: above').reverse, '/' ∉ part.toList := by
          intro part hpart
          apply Text.not_mem_of_mem_splitAt (s := p.text)
          change part ∈ p.pieces
          rw [hpieces]
          simp only [List.mem_append, List.mem_reverse, List.mem_cons] at hpart ⊢
          exact .inl (hpart.symm.imp_right .inl)
        exact (Text.splitAt_joinWith hslash (by simp)).trans List.reverse_cons

/-- The directory that holds a path is written as its front or as one character. -/
lemma text_parent? {dir : Path} (h : p.parent? = some dir) :
    dir.text ∈ ["/", ".", ""] ∨ ∃ rest, p.text = dir.text ++ rest := by
  have hfew : (if p.isAbsolute then some ⟨"/"⟩ else if p.components.length = 2 then some ⟨"."⟩
      else some ⟨""⟩) = some dir → dir.text ∈ ["/", ".", ""] := by
    intro he
    split at he
    · cases he
      decide
    · split at he
      · cases he
        decide
      · cases he
        decide
  unfold parent? at h
  split at h
  · cases h
  · cases hlast : p.pieces.reverse.dropWhile isIdle with
    | nil =>
      rw [hlast] at h
      exact .inl (hfew h)
    | cons s above =>
      obtain ⟨idle, hpieces, -, -⟩ := exists_last_of_dropWhile hlast
      rw [hlast, List.tail_cons] at h
      cases hnext : above.dropWhile isIdle with
      | nil =>
        rw [hnext] at h
        exact .inl (hfew h)
      | cons r above' =>
        obtain ⟨idle', habove, -, -⟩ :=
          @exists_last_of_dropWhile above.reverse _ _ (by rwa [List.reverse_reverse])
        rw [hnext] at h
        cases h
        have hsplit : p.pieces = (r :: above').reverse ++ (idle' ++ s :: idle) := by
          rw [hpieces, habove]
          simp
        refine .inr ⟨"/" ++ Text.joinWith "/" (idle' ++ s :: idle), ?_⟩
        rw [← String.append_assoc, ← Text.joinWith_append (by simp) (by simp), ← hsplit]
        exact (Text.joinWith_splitAt '/' p.text).symm

end Path

namespace FileTree

variable {t u : FileTree} {here a b : Address} {p : Path}

/-! ## Following -/

lemma spec_of_enter {piece : String} (h : t.enter a piece = .ok b) :
    t.node? a = some .directory ∧ b = ([piece].filterMap Path.component?).foldl follow a := by
  unfold enter at h
  split at h
  · cases h
  next hnode =>
    refine ⟨hnode, ?_⟩
    rw [List.filterMap_cons, List.filterMap_nil]
    unfold Path.component?
    split at h
    next hidle =>
      cases h
      rw [if_pos hidle]
      rfl
    next hidle =>
      rw [if_neg hidle]
      split at h
      next hup =>
        cases h
        rw [if_pos hup]
        rfl
      next hup =>
        rw [if_neg hup]
        split at h
        · cases h
        · cases h
          rfl
  · cases h

lemma enter_congr {piece : String} (ht : t.node? a = some .directory)
    (hu : u.node? a = some .directory) : t.enter a piece = u.enter a piece := by
  rw [enter, enter, ht, hu]

lemma eq_foldl_of_foldlM {pieces : List String} (h : pieces.foldlM t.enter a = .ok b) :
    b = (pieces.filterMap Path.component?).foldl follow a := by
  induction pieces generalizing a with
  | nil => exact (Except.ok.inj h).symm
  | cons piece rest ih =>
    rw [List.foldlM_cons] at h
    obtain ⟨a', ha', h⟩ := bind_eq_ok.1 h
    rw [ih h, (spec_of_enter ha').2, ← List.foldl_append, ← List.filterMap_append,
      List.singleton_append]

lemma locate_eq_ok_iff :
    t.locate here p = .ok a ↔
      pathFault? p = none ∧ p.text ≠ "" ∧ p.pieces.foldlM t.enter (p.start here) = .ok a := by
  unfold locate Path.start
  cases pathFault? p with
  | some f => simp
  | none =>
    by_cases hp : p.text = ""
    · simp [hp]
    · simp [hp]

/-- A path that can be gone leads to its place. -/
theorem eq_place_of_locate (h : t.locate here p = .ok a) : a = p.place here :=
  eq_foldl_of_foldlM (locate_eq_ok_iff.1 h).2.2

lemma at?_eq_ok_iff {n : FileNode} :
    t.at? here p = .ok (a, n) ↔ t.locate here p = .ok a ∧ t.node? a = some n := by
  unfold at?
  rw [bind_eq_ok]
  constructor
  · rintro ⟨b, hb, h⟩
    cases hnode : t.node? b with
    | none =>
      rw [hnode] at h
      cases h
    | some m =>
      rw [hnode] at h
      cases h
      exact ⟨hb, hnode⟩
  · rintro ⟨hlocate, hnode⟩
    refine ⟨a, hlocate, ?_⟩
    rw [hnode]
    rfl

/-- A file has a text if its path leads there. -/
lemma read_eq_ok_iff {s : String} :
    t.read here p = .ok s ↔
      t.locate here p = .ok (p.place here) ∧ t.node? (p.place here) = some (.text s) := by
  unfold read
  rw [bind_eq_ok]
  constructor
  · rintro ⟨⟨b, n⟩, hb, h⟩
    rw [at?_eq_ok_iff] at hb
    obtain ⟨hlocate, hnode⟩ := hb
    obtain rfl := eq_place_of_locate hlocate
    cases n with
    | text s' =>
      cases h
      exact ⟨hlocate, hnode⟩
    | directory => cases h
    | binary bytes => cases h
  · rintro ⟨hlocate, hnode⟩
    exact ⟨_, at?_eq_ok_iff.2 ⟨hlocate, hnode⟩, rfl⟩

lemma has_iff :
    t.has here p = true ↔
    t.locate here p = .ok (p.place here) ∧ ∃ n, t.node? (p.place here) = some n := by
  have hhas : t.has here p = true ↔ ∃ a n, t.at? here p = .ok (a, n) := by
    unfold has
    cases t.at? here p with
    | error f => exact ⟨fun h => (nomatch h), fun ⟨_, _, h⟩ => nomatch h⟩
    | ok e => exact ⟨fun _ => ⟨e.1, e.2, rfl⟩, fun _ => rfl⟩
  rw [hhas]
  constructor
  · rintro ⟨a, n, h⟩
    rw [at?_eq_ok_iff] at h
    exact eq_place_of_locate h.1 ▸ ⟨h.1, n, h.2⟩
  · rintro ⟨hlocate, n, hnode⟩
    exact ⟨_, n, at?_eq_ok_iff.2 ⟨hlocate, hnode⟩⟩

/-- Tells that whatever is a directory in one tree is one in another. -/
def KeepsDirectories (t u : FileTree) : Prop :=
  ∀ b, t.node? b = some .directory → u.node? b = some .directory

/-- Where directories stay, ways stay. -/
theorem locate_of_keepsDirectories (hkeeps : t.KeepsDirectories u) (h : t.locate here p = .ok a) :
    u.locate here p = .ok a := by
  rw [locate_eq_ok_iff] at h ⊢
  refine ⟨h.1, h.2.1, ?_⟩
  have hfold : ∀ {pieces : List String} {start}, pieces.foldlM t.enter start = .ok a →
      pieces.foldlM u.enter start = .ok a := by
    intro pieces
    induction pieces with
    | nil => exact id
    | cons piece rest ih =>
      intro start h
      rw [List.foldlM_cons] at h ⊢
      obtain ⟨a', ha', h⟩ := bind_eq_ok.1 h
      have hnode := (spec_of_enter ha').1
      rw [enter_congr hnode (hkeeps _ hnode)] at ha'
      exact bind_eq_ok.2 ⟨a', ha', ih h⟩
  exact hfold h.2.2

lemma node?_of_foldlM {pieces : List String} {front rest : List Component}
    (h : pieces.foldlM t.enter a = .ok b)
    (hsplit : pieces.filterMap Path.component? = front ++ rest) (hrest : rest ≠ []) :
    t.node? (front.foldl follow a) = some .directory := by
  induction pieces generalizing a front with
  | nil => exact absurd (List.append_eq_nil_iff.1 hsplit.symm).2 hrest
  | cons piece pieces ih =>
    rw [List.foldlM_cons] at h
    obtain ⟨a', ha', h⟩ := bind_eq_ok.1 h
    obtain ⟨hdir, hstep⟩ := spec_of_enter ha'
    cases front with
    | nil => exact hdir
    | cons c front =>
      cases hc : Path.component? piece with
      | none =>
        rw [List.filterMap_cons_none hc] at hsplit hstep
        rw [List.filterMap_nil, List.foldl_nil] at hstep
        exact hstep ▸ ih h hsplit
      | some d =>
        rw [List.filterMap_cons_some hc, List.cons_append] at hsplit
        obtain ⟨rfl, htail⟩ := List.cons.inj hsplit
        rw [List.filterMap_cons_some hc, List.filterMap_nil, List.foldl_cons,
          List.foldl_nil] at hstep
        rw [List.foldl_cons]
        exact hstep ▸ ih h htail

/-- Whatever a path goes through is a directory. -/
lemma node?_of_locate {front rest : List Component} (h : t.locate here p = .ok a)
    (hsplit : p.steps = front ++ rest) (hrest : rest ≠ []) :
    t.node? (front.foldl follow (p.start here)) = some .directory :=
  node?_of_foldlM (locate_eq_ok_iff.1 h).2.2 hsplit hrest

lemma pathFault?_eq_none_iff :
    pathFault? p = none ↔ '\x00' ∉ p.text.toList ∧ p.text.utf8ByteSize ≤ maxPathLength := by
  unfold pathFault?
  split
  next hnul => simpa using fun h => absurd (by simpa using hnul) h
  next hnul =>
    split
    next hsize => simpa using fun _ => hsize
    next hsize => simpa using ⟨by simpa using hnul, by omega⟩

/-- A directory has no fault in its path if what it holds has none. -/
lemma pathFault?_parent? {dir : Path} (h : pathFault? p = none) (hdir : p.parent? = some dir) :
    pathFault? dir = none := by
  rcases Path.text_parent? hdir with hmem | ⟨rest, htext⟩
  · obtain ⟨text⟩ := dir
    simp only [List.mem_cons, List.not_mem_nil, or_false] at hmem
    rcases hmem with rfl | rfl | rfl
    · decide
    · decide
    · decide
  · rw [pathFault?_eq_none_iff] at h ⊢
    rw [htext, String.toList_append, List.mem_append, not_or, String.utf8ByteSize_append] at h
    exact ⟨h.1.1, by omega⟩

lemma enter_of_name {s : String} (hs : Path.IsName s) (ha : t.node? a = some .directory) :
    t.enter a s = .ok (a ++ [s]) := by
  obtain ⟨hname, hsize⟩ := hs
  unfold Path.component? at hname
  split at hname
  · cases hname
  next hidle =>
    split at hname
    · cases hname
    next hup =>
      rw [enter, ha]
      change (if Path.isIdle s then _ else _) = _
      rw [if_neg hidle, if_neg hup, if_neg (by omega)]

/-- Names are gone through directories. -/
lemma foldlM_enter_of_names {names : List String} (hnames : ∀ s ∈ names, Path.IsName s)
    (hdirs : ∀ k < names.length, t.node? (a ++ names.take k) = some .directory) :
    names.foldlM t.enter a = .ok (a ++ names) := by
  induction names generalizing a with
  | nil => rw [List.append_nil]; rfl
  | cons s names ih =>
    rw [List.forall_mem_cons] at hnames
    have ha : t.node? a = some .directory := by
      have h := hdirs 0 (by simp)
      rwa [List.take_zero, List.append_nil] at h
    have hrest : ∀ k < names.length, t.node? (a ++ [s] ++ names.take k) = some .directory := by
      intro k hk
      have h := hdirs (k + 1) (by simpa using hk)
      rwa [List.take_succ_cons, ← List.singleton_append, ← List.append_assoc] at h
    rw [List.foldlM_cons, enter_of_name hnames.1 ha]
    change names.foldlM t.enter (a ++ [s]) = _
    rw [ih hnames.2 hrest, List.append_assoc, List.singleton_append]

/-- A path below another is gone from where that leads. -/
lemma locate_join {q : Path} (hq : q.isAbsolute = false) (hfault : pathFault? (p.join q) = none)
    (h : t.locate here p = .ok a) : t.locate here (p.join q) = q.pieces.foldlM t.enter a := by
  obtain ⟨-, htext, hp⟩ := locate_eq_ok_iff.1 h
  have hstart : (p.join q).start here = p.start here := by
    rw [Path.start, Path.start, Path.isAbsolute_join hq]
  -- A slash at the end of the first path makes an idle part there.
  obtain ⟨front, hpieces, hfront⟩ : ∃ front, (p.join q).pieces = front ++ q.pieces ∧
      front.foldlM t.enter (p.start here) = .ok a := by
    rcases Path.text_join hq htext with ⟨s, hs, hjoin⟩ | hjoin
    · refine ⟨Text.splitAt '/' s, ?_, ?_⟩
      · rw [Path.pieces, hjoin]
        exact Text.splitAt_append '/' s q.text
      · have hidle : p.pieces = Text.splitAt '/' s ++ [""] := by
          rw [Path.pieces, hs, ← Text.splitAt_empty '/']
          exact (congrArg _ (String.append_empty).symm).trans (Text.splitAt_append '/' s "")
        rw [hidle, List.foldlM_append] at hp
        obtain ⟨b, hb, hlast⟩ := bind_eq_ok.1 hp
        rw [List.foldlM_cons] at hlast
        obtain ⟨b', hb', he⟩ := bind_eq_ok.1 hlast
        obtain ⟨-, rfl⟩ := spec_of_enter hb'
        cases he
        exact hb
    · refine ⟨p.pieces, ?_, hp⟩
      rw [Path.pieces, hjoin]
      exact Text.splitAt_append '/' p.text q.text
  have hne : (p.join q).text ≠ "" := by
    rcases Path.text_join hq htext with ⟨s, -, hjoin⟩ | hjoin
    · simp [hjoin]
    · simp [hjoin]
  rw [locate, hfault]
  change (if (p.join q).text = "" then _ else (p.join q).pieces.foldlM t.enter
    ((p.join q).start here)) = _
  rw [if_neg hne, hstart, hpieces, List.foldlM_append, hfront]
  rfl

lemma pathFault?_join {q : Path} (hp : pathFault? p = none) (hq : pathFault? q = none)
    (hrelative : q.isAbsolute = false) (htext : p.text ≠ "")
    (hsize : p.text.utf8ByteSize + 1 + q.text.utf8ByteSize ≤ maxPathLength) :
    pathFault? (p.join q) = none := by
  rw [pathFault?_eq_none_iff] at hp hq ⊢
  rcases Path.text_join hrelative htext with ⟨s, hs, hjoin⟩ | hjoin
  · rw [hs] at hp hsize
    simp only [hjoin, String.toList_append, List.mem_append,
      String.utf8ByteSize_append] at hp hq hsize ⊢
    have hslash : "/".utf8ByteSize = 1 := rfl
    exact ⟨by simp_all, by omega⟩
  · simp only [hjoin, String.toList_append, List.mem_append, String.utf8ByteSize_append]
    have hslash : "/".utf8ByteSize = 1 := rfl
    have hnul : '\x00' ∉ "/".toList := by decide
    exact ⟨by simp_all, by omega⟩

/-! ## Ways that cannot be gone yet -/

/-- Tells that no `..` of a path comes after a directory that is not there. -/
def IsForward (t : FileTree) (here : Address) (p : Path) : Prop :=
  ∀ front rest, p.steps = front ++ rest → t.node? (front.foldl follow (p.start here)) = none →
    .up ∉ rest

/-- Tells that whatever is in a tree is in a directory of it. -/
def IsRooted (t : FileTree) : Prop :=
  ∀ a s n, t.node? (a ++ [s]) = some n → t.node? a = some .directory

/-- Names lead down. -/
lemma foldl_follow_names (names : List String) (a : Address) :
    (names.map .name).foldl follow a = a ++ names := by
  induction names generalizing a with
  | nil => exact (List.append_nil a).symm
  | cons s names ih =>
    rw [List.map_cons, List.foldl_cons, ih, follow, List.append_assoc, List.singleton_append]

/-- Components that are all names are made by these. -/
lemma exists_map_name {cs : List Component} (h : ∀ c ∈ cs, ∃ s, c = .name s) :
    ∃ names : List String, cs = names.map .name := by
  induction cs with
  | nil => exact ⟨[], rfl⟩
  | cons c cs ih =>
    rw [List.forall_mem_cons] at h
    obtain ⟨⟨s, rfl⟩, h⟩ := h
    obtain ⟨names, rfl⟩ := ih h
    exact ⟨s :: names, rfl⟩

lemma exists_foldl_follow {cs : List Component} (h : ∀ c ∈ cs, ∃ s, c = .name s) (a : Address) :
    ∃ names, cs.foldl follow a = a ++ names := by
  obtain ⟨names, rfl⟩ := exists_map_name h
  exact ⟨names, foldl_follow_names names a⟩

/-- A path that leads on leads on below. -/
lemma IsForward.join {q : Path} (h : t.IsForward here p) (hq : q.isAbsolute = false)
    (hup : .up ∉ q.steps) : t.IsForward here (p.join q) := by
  intro front rest hsteps hnone
  rw [Path.steps_join hq] at hsteps
  have hstart : (p.join q).start here = p.start here := by
    rw [Path.start, Path.start, Path.isAbsolute_join hq]
  rw [hstart] at hnone
  rcases List.append_eq_append_iff.1 hsteps with ⟨later, rfl, hlater⟩ | ⟨later, hlater, rfl⟩
  · intro hmem
    exact hup (hlater ▸ List.mem_append_right _ hmem)
  · rw [List.mem_append, not_or]
    exact ⟨h front later hlater hnone, hup⟩

/-- Nothing is below an address with nothing. -/
lemma IsRooted.node?_append_eq_none (ht : t.IsRooted) (h : t.node? a = none) (names : List String) :
    t.node? (a ++ names) = none := by
  induction names using List.reverseRecOn with
  | nil => rwa [List.append_nil]
  | append_singleton names s ih =>
    rw [← List.append_assoc]
    cases hnode : t.node? (a ++ names ++ [s]) with
    | none => rfl
    | some n =>
      have hdir := ht _ _ _ hnode
      rw [ih] at hdir
      cases hdir

lemma isRooted_empty : empty.IsRooted := by
  intro a s n h
  rw [node?, if_neg (by simp)] at h
  exact absurd h (by rw [empty, Forest.get?_nil]; simp)

/-- What is put into a directory is in one. -/
lemma IsRooted.put {s : String} {n : FileNode} (ht : t.IsRooted)
    (hdir : t.node? a = some .directory) (hnone : t.node? (a ++ [s]) = none) :
    (t.put (a ++ [s]) n).IsRooted := by
  have hne : a ++ [s] ≠ [] := by simp
  intro b s' m hm
  rw [node?_put hne] at hm ⊢
  by_cases hb : a ++ [s] = b
  · subst hb
    rw [if_neg (by simp), ht.node?_append_eq_none hnone] at hm
    cases hm
  · rw [if_neg hb]
    split at hm
    next he =>
      obtain ⟨rfl, -⟩ := List.append_inj' he rfl
      exact hdir
    next => exact ht _ _ _ hm

/-- A way that could be gone with more directories leads through one that is not there. -/
lemma exists_missing_of_foldlM
    (hmade : ∀ b, u.node? b = some .directory → t.node? b = none ∨ t.node? b = some .directory)
    {pieces : List String} (hu : pieces.foldlM u.enter a = .ok b)
    (ht : pieces.foldlM t.enter a ≠ .ok b) :
    ∃ front rest, pieces = front ++ rest ∧
      t.node? ((front.filterMap Path.component?).foldl follow a) = none := by
  induction pieces generalizing a with
  | nil => exact absurd hu ht
  | cons piece rest ih =>
    rw [List.foldlM_cons] at hu ht
    obtain ⟨a', ha', hu⟩ := bind_eq_ok.1 hu
    obtain ⟨hdir, hstep⟩ := spec_of_enter ha'
    rcases hmade _ hdir with hnone | hthere
    · exact ⟨[], piece :: rest, rfl, hnone⟩
    · rw [enter_congr hdir hthere] at ha'
      obtain ⟨front, rest', rfl, hnone⟩ := ih hu fun h => ht (bind_eq_ok.2 ⟨a', ha', h⟩)
      refine ⟨piece :: front, rest', rfl, ?_⟩
      rw [← List.singleton_append, List.filterMap_append, List.foldl_append, ← hstep]
      exact hnone

/-- Nothing is at the place of a path that leads on, if its way cannot be gone until directories are
made. -/
theorem node?_place_eq_none (hrooted : t.IsRooted) (hforward : t.IsForward here p)
    (hmade : ∀ b, u.node? b = some .directory → t.node? b = none ∨ t.node? b = some .directory)
    (hu : u.locate here p = .ok a) (ht : t.locate here p ≠ .ok a) :
    t.node? (p.place here) = none := by
  rw [locate_eq_ok_iff] at hu
  rw [ne_eq, locate_eq_ok_iff] at ht
  obtain ⟨front, rest, hpieces, hnone⟩ :=
    exists_missing_of_foldlM hmade hu.2.2 fun h => ht ⟨hu.1, hu.2.1, h⟩
  have hsteps : p.steps = front.filterMap Path.component? ++ rest.filterMap Path.component? := by
    rw [Path.steps, hpieces, List.filterMap_append]
  have hup := hforward _ _ hsteps hnone
  have hnames : ∀ c ∈ rest.filterMap Path.component?, ∃ s, c = .name s := fun c hc =>
    Path.exists_name_of_mem_steps (hsteps ▸ List.mem_append_right _ hc) fun he => hup (he ▸ hc)
  obtain ⟨names, hplace⟩ := exists_foldl_follow hnames _
  rw [Path.place, hsteps, List.foldl_append, hplace]
  exact hrooted.node?_append_eq_none hnone names

end FileTree

end OperationGate
