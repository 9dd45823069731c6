import OperationGate.Proofs.Files.Places

/-!
# What grows when files are written

Writing files adds directories where nothing was, and changes nothing but the places of the files
(`FileTree.Gains`). This holds of each step and so of any number of them. Where a path leads on, the
directories that are added for it are above its place (`FileTree.GainsAbove`).
-/

namespace OperationGate.FileTree

/-- Tells that one tree comes from another by writing files at some places and making
directories. -/
structure Gains (places : List Address) (t u : FileTree) : Prop where
  /-- What is not at one of the places stays. -/
  kept : ∀ {b n}, b ∉ places → t.node? b = some n → u.node? b = some n
  /-- Nothing but directories is added elsewhere. -/
  added : ∀ {b n}, b ∉ places → t.node? b = none → u.node? b = some n → n = .directory
  /-- Directories stay. -/
  directories : t.KeepsDirectories u
  /-- Directories are made where nothing was. -/
  made : ∀ b, u.node? b = some .directory → t.node? b = none ∨ t.node? b = some .directory
  /-- Nothing is removed. -/
  missing : ∀ {b}, u.node? b = none → t.node? b = none

/-- Tells that directories which one tree has and another has not are above some places. -/
def GainsAbove (places : List Address) (t u : FileTree) : Prop :=
  ∀ b, t.node? b = none → u.node? b = some .directory → ∃ a ∈ places, b <+: a

variable {t u v : FileTree} {places more : List Address} {a b here : Address} {p : Path}

lemma Gains.refl (places : List Address) (t : FileTree) : t.Gains places t where
  kept _ h := h
  added _ h h' := by rw [h] at h'; cases h'
  directories _ h := h
  made _ h := .inr h
  missing h := h

lemma Gains.mono (h : t.Gains places u) (hsub : ∀ a ∈ places, a ∈ more) : t.Gains more u where
  kept hb := h.kept fun hp => hb (hsub _ hp)
  added hb := h.added fun hp => hb (hsub _ hp)
  directories := h.directories
  made := h.made
  missing := h.missing

lemma Gains.trans (h : t.Gains places u) (h' : u.Gains places v) : t.Gains places v where
  kept hb hn := h'.kept hb (h.kept hb hn)
  added {b n} hb hnone hn := by
    cases hu : u.node? b with
    | none => exact h'.added hb hu hn
    | some m =>
      obtain rfl := h.added hb hnone hu
      exact Option.some.inj (hn.symm.trans (h'.directories b hu))
  directories b hb := h'.directories b (h.directories b hb)
  made b hb := by
    rcases h'.made b hb with hnone | hthere
    · exact .inl (h.missing hnone)
    · exact h.made b hthere
  missing hb := h.missing (h'.missing hb)

lemma IsForward.of_gains (hforward : t.IsForward here p) (h : t.Gains places u) :
    u.IsForward here p :=
  fun front rest hsteps hnone => hforward front rest hsteps (h.missing hnone)

lemma GainsAbove.refl (places : List Address) (t : FileTree) : t.GainsAbove places t := by
  intro b hnone hdirectory
  rw [hnone] at hdirectory
  cases hdirectory

lemma GainsAbove.trans (h : t.GainsAbove places u) (h' : u.GainsAbove more v)
    (hgains : u.Gains more v) : t.GainsAbove (places ++ more) v := by
  intro b hnone hdirectory
  rcases hgains.made b hdirectory with hu | hu
  · obtain ⟨a, ha, hle⟩ := h' b hu hdirectory
    exact ⟨a, List.mem_append_right _ ha, hle⟩
  · obtain ⟨a, ha, hle⟩ := h b hnone hu
    exact ⟨a, List.mem_append_left _ ha, hle⟩

/-- Nothing changes at an address that is not above one of the places. -/
lemma Gains.node?_eq (h : t.Gains places u) (habove : t.GainsAbove places u)
    (hb : ∀ a ∈ places, ¬b <+: a) : u.node? b = t.node? b := by
  have hnot : b ∉ places := fun hmem => hb b hmem (List.prefix_refl b)
  cases ht : t.node? b with
  | some n => exact h.kept hnot ht
  | none =>
    cases hu : u.node? b with
    | none => rfl
    | some n =>
      obtain rfl := h.added hnot ht hu
      obtain ⟨a, ha, hle⟩ := habove b ht hu
      exact absurd hle (hb a ha)

lemma gains_put_directory (h : t.node? a = none) : t.Gains [] (t.put a .directory) := by
  have ha : a ≠ [] := by
    rintro rfl
    cases h
  refine ⟨?_, ?_, ?_, ?_, ?_⟩
  · intro b n _ hn
    rw [node?_put ha, if_neg, hn]
    rintro rfl
    rw [h] at hn
    cases hn
  · intro b n _ hnone hn
    rw [node?_put ha] at hn
    split at hn
    · exact (Option.some.inj hn).symm
    · rw [hnone] at hn
      cases hn
  · intro b hb
    rw [node?_put ha]
    split
    · rfl
    · exact hb
  · intro b hb
    rw [node?_put ha] at hb
    split at hb
    next he => exact .inl (he ▸ h)
    next => exact .inr hb
  · intro b hb
    rw [node?_put ha] at hb
    split at hb
    · cases hb
    · exact hb

/-- A file is put where no directory is. -/
lemma gains_put_file {n : FileNode} (hn : n ≠ .directory) (h : t.node? a ≠ some .directory) :
    t.Gains [a] (t.put a n) := by
  have ha : a ≠ [] := by
    rintro rfl
    exact h rfl
  have hput : ∀ {b}, b ≠ a → (t.put a n).node? b = t.node? b :=
    fun hb => by rw [node?_put ha, if_neg (Ne.symm hb)]
  have hself : (t.put a n).node? a = some n := by rw [node?_put ha, if_pos rfl]
  refine ⟨?_, ?_, ?_, ?_, ?_⟩
  · intro b m hb hm
    rw [hput (mt List.mem_singleton.2 hb)]
    exact hm
  · intro b m hb hnone hm
    rw [hput (mt List.mem_singleton.2 hb), hnone] at hm
    cases hm
  · intro b hb
    rw [hput fun he => h (he ▸ hb)]
    exact hb
  · intro b hb
    by_cases he : b = a
    · subst he
      rw [hself] at hb
      exact absurd (Option.some.inj hb) hn
    · rw [hput he] at hb
      exact .inr hb
  · intro b hb
    by_cases he : b = a
    · subst he
      rw [hself] at hb
      cases hb
    · rw [hput he] at hb
      exact hb

/-! ## Making ways -/

/-- What the first of some components does: nothing, or it leads to a directory that is there or
made. -/
lemma makeDirectories_cons (t : FileTree) (a : Address) (c : Component) (cs : List Component) :
    (t.makeDirectories a (c :: cs)).1 = t ∨
      ∃ u, (u = t ∨ t.node? (follow a c) = none ∧ u = t.put (follow a c) .directory) ∧
        (t.makeDirectories a (c :: cs)).1 = (u.makeDirectories (follow a c) cs).1 := by
  rw [makeDirectories]
  split
  next => exact .inr ⟨t, .inl rfl, rfl⟩
  next => exact .inl rfl
  next hnone =>
    split
    · exact .inl rfl
    · exact .inr ⟨_, .inr ⟨hnone, rfl⟩, rfl⟩

lemma gains_makeDirectories (t : FileTree) (a : Address) (cs : List Component) :
    t.Gains [] (t.makeDirectories a cs).1 := by
  induction cs generalizing t a with
  | nil => exact .refl [] t
  | cons c cs ih =>
    rcases makeDirectories_cons t a c cs with h | ⟨u, rfl | ⟨hnone, rfl⟩, h⟩
    · rw [h]
      exact .refl [] t
    · rw [h]
      exact ih _ _
    · rw [h]
      exact (gains_put_directory hnone).trans (ih _ _)

lemma gains_makeWay (t : FileTree) (here : Address) (dir : Path) :
    t.Gains [] (t.makeWay here dir).1 := by
  unfold makeWay
  split
  · exact .refl [] t
  · exact gains_makeDirectories t here dir.components

/-- What is made for components is where some of them lead. -/
lemma exists_front_of_makeDirectories {cs : List Component} {n : FileNode} (h : t.node? b = none)
    (hmade : (t.makeDirectories a cs).1.node? b = some n) :
    ∃ front rest, cs = front ++ rest ∧ front ≠ [] ∧ b = front.foldl follow a := by
  induction cs generalizing t a with
  | nil =>
    rw [makeDirectories, h] at hmade
    cases hmade
  | cons c cs ih =>
    have hlater : ∀ {u : FileTree}, u.node? b = none →
        (u.makeDirectories (follow a c) cs).1.node? b = some n →
        ∃ front rest, c :: cs = front ++ rest ∧ front ≠ [] ∧ b = front.foldl follow a := by
      intro u hu hmade
      obtain ⟨front, rest, rfl, -, hb⟩ := ih hu hmade
      exact ⟨c :: front, rest, rfl, List.cons_ne_nil _ _, hb⟩
    rcases makeDirectories_cons t a c cs with hu | ⟨u, rfl | ⟨hnone, rfl⟩, hu⟩
    · rw [hu, h] at hmade
      cases hmade
    · exact hlater h (hu ▸ hmade)
    · by_cases hb : follow a c = b
      · exact ⟨[c], cs, rfl, List.cons_ne_nil _ _, hb.symm⟩
      · have hne : follow a c ≠ [] := by
          intro he
          rw [he] at hnone
          cases hnone
        refine hlater ?_ (hu ▸ hmade)
        rw [node?_put hne, if_neg hb, h]

/-- Where the first components of a path lead, some of its steps lead. -/
lemma exists_steps_of_components {front rest : List Component} (hp : p.components = front ++ rest)
    (hfront : front ≠ []) :
    ∃ steps, p.steps = steps ++ rest ∧
      front.foldl follow here = steps.foldl follow (p.start here) := by
  obtain ⟨c, front, rfl⟩ := List.exists_cons_of_ne_nil hfront
  rw [Path.components_eq] at hp
  unfold Path.start
  split at hp
  next habsolute =>
    obtain ⟨rfl, hsteps⟩ := List.cons.inj hp
    exact ⟨front, hsteps, by rw [if_pos habsolute]; rfl⟩
  next habsolute =>
    split at hp
    · obtain ⟨rfl, hsteps⟩ := List.cons.inj hp
      exact ⟨front, hsteps, by rw [if_neg habsolute]; rfl⟩
    · exact ⟨c :: front, hp, by rw [if_neg habsolute]⟩

/-- Where a path leads on, the directories that are made for it are above its place. -/
lemma gainsAbove_makeWay {dir : Path} (hforward : t.IsForward here p)
    (hdir : p.parent? = some dir) : t.GainsAbove [p.place here] (t.makeWay here dir).1 := by
  intro b hnone hmade
  refine ⟨_, List.mem_singleton_self _, ?_⟩
  obtain ⟨c, hc⟩ := Path.components_parent? hdir
  unfold makeWay at hmade
  split at hmade
  · rw [hnone] at hmade
    cases hmade
  · obtain ⟨front, rest, hcomponents, hfront, rfl⟩ := exists_front_of_makeDirectories hnone hmade
    rw [hcomponents, List.append_assoc] at hc
    obtain ⟨steps, hsteps, hplace⟩ := exists_steps_of_components hc hfront
    rw [hplace] at hnone ⊢
    have hup := hforward _ _ hsteps hnone
    have hnames : ∀ c' ∈ rest ++ [c], ∃ s, c' = .name s := fun c' hc' =>
      Path.exists_name_of_mem_steps (hsteps ▸ List.mem_append_right _ hc') fun he => hup (he ▸ hc')
    obtain ⟨names, hlast⟩ := exists_foldl_follow hnames (steps.foldl follow (p.start here))
    rw [Path.place, hsteps, List.foldl_append, hlast]
    exact List.prefix_append _ _

lemma makeDirectories_of_directories {cs : List Component}
    (h : ∀ front rest, cs = front ++ rest → front ≠ [] →
      t.node? (front.foldl follow a) = some .directory) :
    t.makeDirectories a cs = (t, true) := by
  induction cs generalizing a with
  | nil => rfl
  | cons c cs ih =>
    have hthere : t.node? (follow a c) = some .directory := h [c] cs rfl (List.cons_ne_nil _ _)
    rw [makeDirectories, hthere]
    refine ih fun front rest hsplit hfront => ?_
    exact h (c :: front) rest (by rw [hsplit, List.cons_append]) (List.cons_ne_nil _ _)

/-- There is nothing to make on a way that can be gone. -/
lemma makeWay_of_locate {dir : Path} (h : t.locate here p = .ok a) (hdir : p.parent? = some dir) :
    t.makeWay here dir = (t, true) := by
  obtain ⟨c, hc⟩ := Path.components_parent? hdir
  rw [makeWay, pathFault?_parent? (locate_eq_ok_iff.1 h).1 hdir]
  refine makeDirectories_of_directories fun front rest hsplit hfront => ?_
  rw [hsplit, List.append_assoc] at hc
  obtain ⟨steps, hsteps, hplace⟩ := exists_steps_of_components hc hfront
  rw [hplace]
  exact node?_of_locate h hsteps (by simp)

lemma write?_of_locate {n : FileNode} (h : t.locate here p = .ok a)
    (ha : t.node? a ≠ some .directory) : t.write? here p n = some (t.put a n) := by
  rw [write?, h]
  exact if_neg ha

/-- A file is written by putting it at the address that its path leads to. -/
lemma exists_put_of_write? {n : FileNode} (h : t.write? here p n = some u) :
    t.locate here p = .ok (p.place here) ∧
    t.node? (p.place here) ≠ some .directory ∧ u = t.put (p.place here) n := by
  unfold write? at h
  split at h
  · cases h
  next a hlocate =>
    obtain rfl := eq_place_of_locate hlocate
    split at h
    · cases h
    next hnode => exact ⟨hlocate, hnode, (Option.some.inj h).symm⟩

end OperationGate.FileTree
