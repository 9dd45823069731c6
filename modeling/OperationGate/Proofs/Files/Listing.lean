import Mathlib.Data.List.Nodup
import Mathlib.Data.List.Sort
import OperationGate.Files.Tree

/-!
# Listed files

The files below a directory are listed in one order, whatever the order in which they came into the
tree (`pairwise_filesBelow`). So what is listed of two trees under some condition is the same list
as soon as the same files meet the condition (`filter_filesBelow_congr`).
-/

namespace OperationGate

/-- Each address is listed once. -/
lemma Forest.nodup_addresses {α : Type} {f : Forest α} (h : f.Distinct) :
    (f.entries.map (·.1)).Nodup := by
  induction f with
  | nil => exact .nil
  | cons n v below rest ihb ihr =>
    obtain ⟨hn, hb, hr⟩ := h
    have hhere : ∀ a ∈ (v.toList.map fun v => ([n], v)).map (·.1), a = [n] := by
      cases v with
      | none => simp
      | some v => simp
    have hbelow : ∀ a ∈ (below.entries.map fun e => (n :: e.1, e.2)).map (·.1), ∃ names, names ≠
        [] ∧ a = n :: names := by
      intro a ha
      rw [List.map_map] at ha
      obtain ⟨e, he, rfl⟩ := List.mem_map.1 ha
      exact ⟨e.1, ne_nil_of_mem_entries he, rfl⟩
    have hrest : ∀ a ∈ rest.entries.map (·.1), ∀ names, a ≠ n :: names := by
      rintro a ha names rfl
      obtain ⟨⟨b, w⟩, he, hname⟩ := List.mem_map.1 ha
      obtain rfl : b = n :: names := hname
      exact hn (head_mem_names_of_mem_entries he)
    rw [entries, List.map_append, List.map_append, List.nodup_append, List.nodup_append]
    refine ⟨⟨?_, ?_, ?_⟩, ihr hr, ?_⟩
    · cases v with
      | none => exact .nil
      | some v => exact List.nodup_singleton _
    · have hmap := (ihb hb).map (List.cons_injective (a := n))
      rw [List.map_map] at hmap ⊢
      exact hmap
    · rintro a ha b hb rfl
      obtain ⟨names, hne, he⟩ := hbelow a hb
      rw [hhere a ha] at he
      exact hne (List.cons.inj he).2.symm
    · rintro a ha b hb rfl
      rcases List.mem_append.1 ha with ha | ha
      · exact hrest a hb [] (hhere a ha)
      · obtain ⟨names, -, he⟩ := hbelow a ha
        exact hrest a hb names he

namespace FileTree

variable {t u : FileTree} {a b c : Address}

/-! ## The order of addresses -/

lemma isBefore_total (a b : Address) : (isBefore a b || isBefore b a) = true := by
  induction a generalizing b with
  | nil => simp [isBefore]
  | cons x xs ih =>
    cases b with
    | nil => simp [isBefore]
    | cons y ys =>
      by_cases hxy : x = y
      · subst hxy
        simpa [isBefore] using ih ys
      · rw [isBefore, isBefore, if_neg hxy, if_neg (Ne.symm hxy), Bool.or_eq_true,
          decide_eq_true_eq, decide_eq_true_eq]
        by_contra h
        rw [not_or] at h
        exact hxy (String.le_antisymm h.2 h.1)

lemma isBefore_trans (h : isBefore a b = true) (h' : isBefore b c = true) :
    isBefore a c = true := by
  induction a generalizing b c with
  | nil => simp [isBefore]
  | cons x xs ih =>
    cases b with
    | nil => simp [isBefore] at h
    | cons y ys =>
      cases c with
      | nil => simp [isBefore] at h'
      | cons z zs =>
        unfold isBefore at h h' ⊢
        grind

lemma isBefore_antisymm (h : isBefore a b = true) (h' : isBefore b a = true) : a = b := by
  induction a generalizing b with
  | nil =>
    cases b with
    | nil => rfl
    | cons y ys => simp [isBefore] at h'
  | cons x xs ih =>
    cases b with
    | nil => simp [isBefore] at h
    | cons y ys =>
      unfold isBefore at h h'
      grind

/-! ## The files below a directory -/

lemma nodup_below (t : FileTree) (a : Address) : (t.below a).Nodup := by
  have hentries : t.entries.Nodup := (Forest.nodup_addresses t.distinct).of_map _
  refine hentries.filterMap ?_
  rintro ⟨b, n⟩ ⟨c, m⟩ ⟨rest, k⟩ hb hc
  rw [Option.mem_def] at hb hc
  split at hb
  · cases hb
  split at hc
  · cases hc
  obtain ⟨r, hr, he⟩ := Option.map_eq_some_iff.1 hb
  obtain ⟨r', hr', he'⟩ := Option.map_eq_some_iff.1 hc
  cases he
  cases he'
  obtain rfl : b = a ++ rest := wayFrom?_eq_some_iff.1 hr
  obtain rfl : c = a ++ rest := wayFrom?_eq_some_iff.1 hr'
  rfl

/-- The files below a directory are listed by their addresses. -/
theorem pairwise_filesBelow (t : FileTree) (a : Address) :
    (t.filesBelow a).Pairwise fun e f => isBefore e.1 f.1 = true ∧ e.1 ≠ f.1 := by
  have hsorted : (t.filesBelow a).Pairwise fun e f => isBefore e.1 f.1 = true := by
    apply List.pairwise_mergeSort
    · intro e f g
      exact isBefore_trans
    · intro e f
      exact isBefore_total e.1 f.1
  have hnodup : (t.filesBelow a).Nodup := (List.mergeSort_perm _ _).nodup_iff.2 (t.nodup_below a)
  refine (hsorted.and hnodup).imp_of_mem ?_
  rintro ⟨b, n⟩ ⟨c, m⟩ hb hc ⟨hbefore, hne⟩
  refine ⟨hbefore, ?_⟩
  rintro rfl
  have hn := (mem_filesBelow_iff.1 hb).1.symm.trans (mem_filesBelow_iff.1 hc).1
  exact hne (by rw [Option.some.inj hn])

/-- The files that meet a condition are listed alike where they are the same. -/
theorem filter_filesBelow_congr {p : Address × FileNode → Bool}
    (h : ∀ rest n, p (rest, n) = true → n ≠ .directory →
      (t.node? (a ++ rest) = some n ↔ u.node? (a ++ rest) = some n)) :
    (t.filesBelow a).filter p = (u.filesBelow a).filter p := by
  have : Std.Antisymm fun e f : Address × FileNode => isBefore e.1 f.1 = true ∧ e.1 ≠ f.1 :=
    ⟨fun e f hef hfe => absurd (isBefore_antisymm hef.1 hfe.1) hef.2⟩
  have : Std.Irrefl fun e f : Address × FileNode => isBefore e.1 f.1 = true ∧ e.1 ≠ f.1 :=
    ⟨fun e he => he.2 rfl⟩
  refine List.Pairwise.eq_of_mem_iff ((pairwise_filesBelow t a).filter _)
    ((pairwise_filesBelow u a).filter _) ?_
  rintro ⟨rest, n⟩
  rw [List.mem_filter, List.mem_filter, mem_filesBelow_iff, mem_filesBelow_iff]
  constructor
  · rintro ⟨⟨hnode, hn⟩, hp⟩
    exact ⟨⟨(h rest n hp hn).1 hnode, hn⟩, hp⟩
  · rintro ⟨⟨hnode, hn⟩, hp⟩
    exact ⟨⟨(h rest n hp hn).2 hnode, hn⟩, hp⟩

end FileTree

end OperationGate
