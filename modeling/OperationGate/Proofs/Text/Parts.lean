import Mathlib.Data.List.Forall2
import Mathlib.Data.List.TakeWhile
import OperationGate.Text.Cut

/-!
# Texts in parts

Texts joined and taken apart, and what is done with their parts one by one.
-/

namespace OperationGate

namespace Text

/-! ## Joining and cutting -/

/-- Texts are joined as their characters are. -/
lemma toList_joinWith (sep : String) (parts : List String) :
    (joinWith sep parts).toList = List.intercalate sep.toList (parts.map String.toList) := by
  fun_induction joinWith sep parts with
  | case1 => rfl
  | case2 => simp
  | case3 s rest hrest ih =>
    cases rest with
    | nil => exact absurd rfl hrest
    | cons t rest =>
      rw [String.toList_append, String.toList_append, ih]
      simp [List.intercalate_cons_cons]

lemma mem_intercalate {sep : List Char} {c : Char} {parts : List (List Char)} :
    c ∈ List.intercalate sep parts → c ∈ sep ∨ ∃ part ∈ parts, c ∈ part := by
  induction parts with
  | nil => simp
  | cons p rest ih =>
    cases rest with
    | nil => exact fun h => .inr ⟨p, List.mem_cons_self, by simpa using h⟩
    | cons q rest =>
      rw [List.intercalate_cons_cons, List.mem_append, List.mem_append]
      rintro ((h | h) | h)
      · exact .inr ⟨p, List.mem_cons_self, h⟩
      · exact .inl h
      · rcases ih h with h | ⟨part, hp, hc⟩
        · exact .inl h
        · exact .inr ⟨part, List.mem_cons_of_mem _ hp, hc⟩

/-- The parts of a list are made of its items. -/
lemma mem_of_mem_splitOnP {p : Char → Bool} {cs part : List Char} (hp : part ∈ cs.splitOnP p)
    {c : Char} (hc : c ∈ part) : c ∈ cs := by
  induction cs generalizing part with
  | nil =>
    rw [List.splitOnP_nil, List.mem_singleton] at hp
    exact absurd (hp ▸ hc) List.not_mem_nil
  | cons d cs ih =>
    rw [List.splitOnP_cons_eq_if_modifyHead] at hp
    split at hp
    next =>
      rcases List.mem_cons.1 hp with rfl | hp
      · exact absurd hc List.not_mem_nil
      · exact List.mem_cons_of_mem _ (ih hp hc)
    next =>
      cases hsplit : cs.splitOnP p with
      | nil =>
        rw [hsplit] at hp
        cases hp
      | cons first rest =>
        rw [hsplit, List.modifyHead_cons] at hp
        rw [hsplit] at ih
        rcases List.mem_cons.1 hp with rfl | hp
        · rcases List.mem_cons.1 hc with rfl | hc
          · exact List.mem_cons_self
          · exact List.mem_cons_of_mem _ (ih List.mem_cons_self hc)
        · exact List.mem_cons_of_mem _ (ih (List.mem_cons_of_mem _ hp) hc)

lemma mem_of_mem_splitOn {sep c : Char} {cs part : List Char} (hp : part ∈ cs.splitOn sep)
    (hc : c ∈ part) : c ∈ cs :=
  mem_of_mem_splitOnP hp hc

/-- The parts between separators hold none. -/
lemma not_mem_of_mem_splitOn {sep : Char} {cs part : List Char} (hp : part ∈ cs.splitOn sep) :
    sep ∉ part := by
  induction cs generalizing part with
  | nil =>
    rw [List.splitOn_nil, List.mem_singleton] at hp
    simp [hp]
  | cons c cs ih =>
    rw [List.splitOn, List.splitOnP_cons_eq_if_modifyHead] at hp
    split at hp
    next =>
      rcases List.mem_cons.1 hp with rfl | hp
      · exact List.not_mem_nil
      · exact ih hp
    next hc =>
      cases hsplit : cs.splitOnP (· == sep) with
      | nil =>
        rw [hsplit] at hp
        cases hp
      | cons first rest =>
        rw [hsplit, List.modifyHead_cons] at hp
        have hall : ∀ {q}, q ∈ first :: rest → sep ∉ q := by
          intro q hq
          apply ih
          rw [List.splitOn, hsplit]
          exact hq
        rcases List.mem_cons.1 hp with rfl | hp
        · rw [List.mem_cons, not_or]
          exact ⟨fun he => hc (by simp [he]), hall List.mem_cons_self⟩
        · exact hall (List.mem_cons_of_mem _ hp)

lemma not_mem_of_mem_splitAt {sep : Char} {s part : String} (h : part ∈ splitAt sep s) :
    sep ∉ part.toList := by
  obtain ⟨cs, hcs, rfl⟩ := List.mem_map.1 h
  rw [String.toList_ofList]
  exact not_mem_of_mem_splitOn hcs

lemma splitAt_empty (sep : Char) : splitAt sep "" = [""] := by
  simp [splitAt]

/-- A text is split at a separator in it. -/
lemma splitAt_append (sep : Char) (s t : String) :
    splitAt sep (s ++ String.singleton sep ++ t) = splitAt sep s ++ splitAt sep t := by
  have hchars : (s ++ String.singleton sep ++ t).toList = s.toList ++ sep :: t.toList := by simp
  rw [splitAt, splitAt, splitAt, hchars, List.splitOn_append_cons_self, List.map_append]

/-- Parts without the separator are found again when they are joined. -/
lemma splitAt_joinWith {sep : Char} {parts : List String} (h : ∀ s ∈ parts, sep ∉ s.toList)
    (hne : parts ≠ []) : splitAt sep (joinWith (String.singleton sep) parts) = parts := by
  have hchars : ∀ cs ∈ parts.map String.toList, sep ∉ cs := by
    intro cs hcs
    obtain ⟨s, hs, rfl⟩ := List.mem_map.1 hcs
    exact h s hs
  rw [splitAt, toList_joinWith, String.toList_singleton,
    List.splitOn_intercalate sep hchars (by simpa using hne), List.map_map]
  simp

/-- Joining undoes splitting. -/
lemma joinWith_splitAt (sep : Char) (s : String) :
    joinWith (String.singleton sep) (splitAt sep s) = s := by
  rw [← String.toList_inj, toList_joinWith, splitAt, List.map_map, String.toList_singleton]
  simp

lemma joinWith_append {sep : String} {front rest : List String} (hfront : front ≠ [])
    (hrest : rest ≠ []) :
    joinWith sep (front ++ rest) = joinWith sep front ++ sep ++ joinWith sep rest := by
  induction front with
  | nil => exact absurd rfl hfront
  | cons s front ih =>
    cases front with
    | nil =>
      obtain ⟨t, rest, rfl⟩ := List.exists_cons_of_ne_nil hrest
      rfl
    | cons t front =>
      have hcons : ∀ parts, joinWith sep (s :: t :: parts) = s ++ sep ++ joinWith sep
          (t :: parts) := fun _ => rfl
      rw [List.cons_append, List.cons_append, hcons,
        hcons, ← List.cons_append, ih (List.cons_ne_nil _ _)]
      simp only [String.append_assoc]

/-- What follows the front of a text. -/
lemma afterFront?_eq_some_iff {front s rest : String} :
    afterFront? front s = some rest ↔ s = front ++ rest := by
  rw [afterFront?, Option.map_eq_some_iff]
  constructor
  · rintro ⟨cs, hcs, rfl⟩
    rw [List.isPrefixOf?_eq_some_iff_append_eq] at hcs
    rw [← String.toList_inj, String.toList_append, String.toList_ofList, hcs]
  · rintro rfl
    refine ⟨rest.toList, List.isPrefixOf?_eq_some_iff_append_eq.2 ?_, String.ofList_toList⟩
    rw [String.toList_append]

lemma afterFront?_append (front rest : String) : afterFront? front (front ++ rest) = some rest :=
  afterFront?_eq_some_iff.2 rfl

lemma beforeTail?_eq_some_iff {tail s front : String} :
    beforeTail? tail s = some front ↔ s = front ++ tail := by
  rw [beforeTail?, Option.map_eq_some_iff]
  constructor
  · rintro ⟨cs, hcs, rfl⟩
    rw [List.isPrefixOf?_eq_some_iff_append_eq] at hcs
    rw [← String.toList_inj, String.toList_append, String.toList_ofList, ← List.reverse_inj, ← hcs]
    simp
  · rintro rfl
    refine ⟨front.toList.reverse, ?_, by simp⟩
    rw [List.isPrefixOf?_eq_some_iff_append_eq]
    simp

/-- An end without slashes is an end of what follows the last slash. -/
lemma beforeTail?_append {tail front s : String} (htail : '/' ∉ tail.toList)
    (hfront : front = "" ∨ ∃ t, front = t ++ "/") :
    beforeTail? tail (front ++ s) = (beforeTail? tail s).map (front ++ ·) := by
  ext r
  rw [beforeTail?_eq_some_iff, Option.map_eq_some_iff]
  simp only [beforeTail?_eq_some_iff]
  constructor
  · intro h
    rw [← String.toList_inj, String.toList_append, String.toList_append,
      List.append_eq_append_iff] at h
    rcases h with ⟨m, hm, hs⟩ | ⟨m, hm, hm'⟩
    · refine ⟨String.ofList m, ?_, ?_⟩
      · rw [← String.toList_inj, hs, String.toList_append, String.toList_ofList]
      · rw [← String.toList_inj, hm, String.toList_append, String.toList_ofList]
    · -- A part of the end that stands before the last slash would have this slash.
      have hnil : m = [] := by
        rcases hfront with rfl | ⟨t, rfl⟩
        · exact (List.append_eq_nil_iff.1 hm.symm).2
        · rcases List.eq_nil_or_concat' m with hnil | ⟨m, c, rfl⟩
          · exact hnil
          · rw [String.toList_append, ← List.append_assoc] at hm
            have hc : ['/'] = [c] := (List.append_inj' hm rfl).2
            rw [hm', ← List.singleton_inj.1 hc] at htail
            simp at htail
      subst hnil
      refine ⟨"", ?_, ?_⟩
      · rw [String.empty_append, ← String.toList_inj, hm', List.nil_append]
      · rw [String.append_empty, ← String.toList_inj, hm, List.append_nil]
  · rintro ⟨r', rfl, rfl⟩
    rw [String.append_assoc]

lemma replaceChar_eq_self {old new : Char} {s : String} (h : old ∉ s.toList) :
    replaceChar old new s = s := by
  rw [replaceChar, ← String.toList_inj, String.toList_ofList]
  have hkept : ∀ c ∈ s.toList, (if c = old then new else c) = c := by
    intro c hc
    rw [if_neg]
    rintro rfl
    exact h hc
  exact (List.map_congr_left hkept).trans (List.map_id' _)

/-- A text with one separator is split into what precedes it and what follows it. -/
lemma splitAt_eq_pair_iff {sep : Char} {s a b : String} :
    splitAt sep s = [a, b] ↔ s = a ++ String.singleton sep ++ b ∧ sep ∉ a.toList ∧
    sep ∉ b.toList := by
  constructor
  · intro h
    have hchars : s.toList.splitOn sep = [a.toList, b.toList] := by
      have hmap := congrArg (List.map String.toList) h
      rw [splitAt, List.map_map] at hmap
      simpa using hmap
    refine ⟨?_, @not_mem_of_mem_splitOn sep s.toList _ ?_,
      @not_mem_of_mem_splitOn sep s.toList _ ?_⟩
    · have hjoin := @List.intercalate_splitOn _ s.toList _ _ sep
      rw [hchars] at hjoin
      rw [← String.toList_inj, ← hjoin]
      simp
    · rw [hchars]
      exact List.mem_cons_self
    · rw [hchars]
      exact List.mem_cons_of_mem _ List.mem_cons_self
  · rintro ⟨rfl, ha, hb⟩
    have hjoin : (a ++ String.singleton sep ++ b).toList =
        List.intercalate [sep] [a.toList, b.toList] := by
      simp
    rw [splitAt, hjoin, List.splitOn_intercalate sep (by simp [ha, hb]) (by simp)]
    simp

/-- A text is cut at its first separator. -/
lemma cutAt?_append_cons {sep : Char} {as : List Char} (h : sep ∉ as) (bs : List Char) :
    cutAt? sep (as ++ sep :: bs) = some (as, bs) := by
  induction as with
  | nil => simp [cutAt?]
  | cons a as ih =>
    rw [List.mem_cons, not_or] at h
    rw [List.cons_append, cutAt?, if_neg (Ne.symm h.1), ih h.2]
    rfl

/-- It is cut only there. -/
lemma cutAt?_eq_some_iff {sep : Char} {cs as bs : List Char} :
    cutAt? sep cs = some (as, bs) ↔ cs = as ++ sep :: bs ∧ sep ∉ as := by
  constructor
  · intro h
    have hmem : sep ∈ cs := by
      rw [eq_append_of_cutAt? h]
      simp
    obtain ⟨front, rest, hcs, hfront⟩ := List.eq_append_cons_of_mem hmem
    have hcut := cutAt?_append_cons hfront rest
    rw [← hcs, h] at hcut
    cases hcut
    exact ⟨hcs, hfront⟩
  · rintro ⟨rfl, has⟩
    exact cutAt?_append_cons has bs

/-- A text without the separator is not cut. -/
lemma cutAt?_of_not_mem {sep : Char} {cs : List Char} (h : sep ∉ cs) : cutAt? sep cs = none := by
  induction cs with
  | nil => rfl
  | cons c cs ih =>
    rw [List.mem_cons, not_or] at h
    rw [cutAt?, if_neg (Ne.symm h.1), ih h.2]
    rfl

section Front

variable {α : Type} {p : α → Bool} {front rest : List α}

/-- The front of a list is found where the rest starts with something else. -/
lemma takeWhile_front (h : ∀ a ∈ front, p a) (hrest : ∀ a ∈ rest.head?, p a = false) :
    (front ++ rest).takeWhile p = front := by
  rw [List.takeWhile_append_of_pos h]
  cases rest with
  | nil => simp
  | cons a rest => simp [hrest a rfl]

lemma dropWhile_front (h : ∀ a ∈ front, p a) (hrest : ∀ a ∈ rest.head?, p a = false) :
    (front ++ rest).dropWhile p = rest := by
  rw [List.dropWhile_append_of_pos h]
  cases rest with
  | nil => rfl
  | cons a rest => simp [hrest a rfl]

end Front

section Blanks

variable {c : Char} {cs ds : List Char}

lemma trim_cons_of_isBlank (hc : isBlank c = true) (cs : List Char) : trim (c :: cs) = trim cs := by
  rw [trim, trimStart, List.dropWhile_cons_of_pos hc]
  rfl

lemma trim_append_of_isBlank (hc : isBlank c = true) (cs : List Char) :
    trim (cs ++ [c]) = trim cs := by
  rw [trim, trim, trimStart, trimStart, List.dropWhile_append]
  split
  next hempty =>
    rw [List.isEmpty_iff.1 hempty, List.dropWhile_cons_of_pos hc]
    rfl
  next =>
    rw [dropEndWhile, List.reverse_append, List.reverse_singleton, List.singleton_append,
      List.dropWhile_cons_of_pos hc]
    rfl

lemma trim_eq_self (hfirst : ∀ c ∈ cs.head?, isBlank c = false)
    (hlast : ∀ c ∈ cs.getLast?, isBlank c = false) : trim cs = cs := by
  have hkept {ds : List Char} (h : ∀ c ∈ ds.head?, isBlank c = false) :
      ds.dropWhile isBlank = ds := by
    cases ds with
    | nil => rfl
    | cons c ds => exact List.dropWhile_cons_of_neg (by simp [h c rfl])
  rw [trim, trimStart, hkept hfirst, dropEndWhile, hkept (by rwa [List.head?_reverse]),
    List.reverse_reverse]

lemma trim_append_of_forall_isBlank (h : ∀ c ∈ ds, isBlank c = true) (cs : List Char) :
    trim (ds ++ cs) = trim cs := by
  induction ds with
  | nil => rfl
  | cons d ds ih =>
    rw [List.forall_mem_cons] at h
    rw [List.cons_append, trim_cons_of_isBlank h.1, ih h.2]

end Blanks

end Text

/-! ## Part by part -/

/-- Two steps succeed if each of them does. -/
lemma bind_eq_ok {ε α β : Type} {x : Except ε α} {f : α → Except ε β} {b : β} :
    x >>= f = .ok b ↔ ∃ a, x = .ok a ∧ f a = .ok b := by
  cases x with
  | error e => exact ⟨fun h => (nomatch h), fun ⟨_, h, _⟩ => nomatch h⟩
  | ok a => exact ⟨fun h => ⟨a, rfl, h⟩, fun ⟨_, h, h'⟩ => Except.ok.inj h ▸ h'⟩

/-- What is made of a result is made of one that succeeds. -/
lemma map_eq_ok {ε α β : Type} {x : Except ε α} {f : α → β} {b : β} :
    x.map f = .ok b ↔ ∃ a, x = .ok a ∧ f a = b := by
  cases x with
  | error e => exact ⟨fun h => (nomatch h), fun ⟨_, h, _⟩ => nomatch h⟩
  | ok a => exact ⟨fun h => ⟨a, rfl, Except.ok.inj h⟩, fun ⟨_, h, h'⟩ =>
      Except.ok.inj h ▸ congrArg _ h'⟩

/-- A check succeeds before a step if both do. -/
lemma check_bind_eq_ok {ε β : Type} {x : Except ε Unit} {f : Unit → Except ε β} {b : β} :
    x >>= f = .ok b ↔ x = .ok () ∧ f () = .ok b := by
  rw [bind_eq_ok]
  exact ⟨fun ⟨_, hx, hf⟩ => ⟨hx, hf⟩, fun ⟨hx, hf⟩ => ⟨(), hx, hf⟩⟩

section Parts

/-- Lists agree item by item in relations that agree. -/
lemma forall₂_congr_of_iff {α β : Type} {r r' : α → β → Prop} (h : ∀ a b, r a b ↔ r' a b)
    {as : List α} {bs : List β} : List.Forall₂ r as bs ↔ List.Forall₂ r' as bs :=
  ⟨fun hr => hr.imp fun a b => (h a b).1, fun hr => hr.imp fun a b => (h a b).2⟩

/-- A list has counterparts item by item just when each of its items has one. -/
lemma exists_forall₂_iff {α β : Type} {r : α → β → Prop} {xs : List α} :
    (∃ ys, List.Forall₂ r xs ys) ↔ ∀ x ∈ xs, ∃ y, r x y := by
  induction xs with
  | nil => simp
  | cons x xs ih =>
    rw [List.forall_mem_cons, ← ih]
    constructor
    · rintro ⟨_, _ | ⟨hy, hys⟩⟩
      exact ⟨⟨_, hy⟩, _, hys⟩
    · rintro ⟨⟨y, hy⟩, ys, hys⟩
      exact ⟨y :: ys, .cons hy hys⟩

variable {α β : Type} {f : α → Option β} {xs : List α} {ys : List β}

/-- A list is made of another item by item. -/
lemma mapM_eq_some_iff : xs.mapM f = some ys ↔ List.Forall₂ (fun x y => f x = some y) xs ys := by
  induction xs generalizing ys with
  | nil => simp [eq_comm]
  | cons x xs ih =>
    simp only [List.mapM_cons, Option.bind_eq_bind, Option.bind_eq_some_iff, Option.pure_def,
      Option.some.injEq, ih]
    constructor
    · rintro ⟨y, hy, ys', hys, rfl⟩
      exact .cons hy hys
    · rintro (_ | ⟨hy, hys⟩)
      exact ⟨_, hy, _, hys, rfl⟩

/-- What a list was made of. -/
lemma exists_of_mem_of_mapM (h : xs.mapM f = some ys) {y : β} (hy : y ∈ ys) :
    ∃ x ∈ xs, f x = some y := by
  have h := mapM_eq_some_iff.1 h
  induction h with
  | nil => cases hy
  | cons hx _ ih =>
    rcases List.mem_cons.1 hy with rfl | hy
    · exact ⟨_, List.mem_cons_self, hx⟩
    · obtain ⟨x, hx, hf⟩ := ih (mapM_eq_some_iff.2 ‹_›) hy
      exact ⟨x, List.mem_cons_of_mem _ hx, hf⟩

/-- A list is made of what makes each of its items. -/
lemma mapM_map_eq_self {g : β → α} (h : ∀ y ∈ ys, f (g y) = some y) :
    (ys.map g).mapM f = some ys := by
  induction ys with
  | nil => rfl
  | cons y ys ih =>
    rw [List.map_cons, List.mapM_cons, h y List.mem_cons_self,
      ih fun z hz => h z (List.mem_cons_of_mem _ hz)]
    rfl

/-- Items are found again in what is found for each of them, if something is. -/
lemma map_filterMap_eq_self {g : β → α} (h : ∀ x ∈ xs, ∃ y, f x = some y ∧ g y = x) :
    (xs.filterMap f).map g = xs := by
  induction xs with
  | nil => rfl
  | cons x rest ih =>
    rw [List.forall_mem_cons] at h
    obtain ⟨⟨y, hy, hback⟩, hrest⟩ := h
    rw [List.filterMap_cons_some hy, List.map_cons, hback, ih hrest]

lemma mapM_eq_map {g : α → β} (h : ∀ x ∈ xs, f x = some (g x)) : xs.mapM f = some (xs.map g) := by
  induction xs with
  | nil => rfl
  | cons x xs ih =>
    rw [List.map_cons, List.mapM_cons, h x List.mem_cons_self,
      ih fun z hz => h z (List.mem_cons_of_mem _ hz)]
    rfl

end Parts

section Checks

variable {ε α β : Type} {f : α → Except ε β} {xs : List α} {ys : List β}

/-- A list is made of another item by item, if no item fails. -/
lemma mapM_eq_ok_iff : xs.mapM f = .ok ys ↔ List.Forall₂ (fun x y => f x = .ok y) xs ys := by
  induction xs generalizing ys with
  | nil =>
    have hpure : (Except.ok ([] : List β) : Except ε (List β)) = .ok ys ↔ ys = [] := by
      rw [Except.ok.injEq, eq_comm]
    rw [List.forall₂_nil_left_iff, ← hpure]
    rfl
  | cons x xs ih =>
    rw [List.mapM_cons, bind_eq_ok]
    constructor
    · rintro ⟨y, hy, h⟩
      obtain ⟨ys', hys, h⟩ := bind_eq_ok.1 h
      cases h
      exact .cons hy (ih.1 hys)
    · rintro (_ | ⟨hy, hys⟩)
      exact ⟨_, hy, bind_eq_ok.2 ⟨_, ih.2 hys, rfl⟩⟩

/-- What an item was made of. -/
lemma exists_of_mem_of_mapM_ok (h : xs.mapM f = .ok ys) {y : β} (hy : y ∈ ys) :
    ∃ x ∈ xs, f x = .ok y := by
  have h := mapM_eq_ok_iff.1 h
  induction h with
  | nil => cases hy
  | cons hx _ ih =>
    rcases List.mem_cons.1 hy with rfl | hy
    · exact ⟨_, List.mem_cons_self, hx⟩
    · obtain ⟨x, hx, hf⟩ := ih (mapM_eq_ok_iff.2 ‹_›) hy
      exact ⟨x, List.mem_cons_of_mem _ hx, hf⟩

/-- What is made of each item that can be made. -/
lemma mem_iff_of_mapM_ok (h : xs.mapM f = .ok ys) {y : β} : y ∈ ys ↔ ∃ x ∈ xs, f x = .ok y := by
  refine ⟨exists_of_mem_of_mapM_ok h, ?_⟩
  rintro ⟨x, hx, hy⟩
  have h := mapM_eq_ok_iff.1 h
  induction h with
  | nil => cases hx
  | cons hmade _ ih =>
    rcases List.mem_cons.1 hx with rfl | hx
    · obtain rfl := Except.ok.inj (hmade.symm.trans hy)
      exact List.mem_cons_self
    · exact List.mem_cons_of_mem _ (ih (mapM_eq_ok_iff.2 ‹_›) hx)

/-- A list is found again in what is made of it, if each item is. -/
lemma map_eq_of_mapM_ok (h : xs.mapM f = .ok ys) {g : β → α} (hg : ∀ x y, f x = .ok y → g y = x) :
    ys.map g = xs := by
  have h := mapM_eq_ok_iff.1 h
  induction h with
  | nil => rfl
  | cons hmade _ ih => rw [List.map_cons, hg _ _ hmade, ih (mapM_eq_ok_iff.2 ‹_›)]

/-- A list can be made of another if something can be made of each of its items. -/
lemma exists_mapM_eq_ok_iff : (∃ ys, xs.mapM f = .ok ys) ↔ ∀ x ∈ xs, ∃ y, f x = .ok y := by
  simp only [mapM_eq_ok_iff]
  exact exists_forall₂_iff

/-- Something is checked item by item. -/
lemma forM_eq_ok_iff {f : α → Except ε Unit} : xs.forM f = .ok () ↔ ∀ x ∈ xs, f x = .ok () := by
  induction xs with
  | nil => simp [List.forM_nil, pure, Except.pure]
  | cons x xs ih =>
    rw [List.forall_mem_cons, ← ih]
    exact check_bind_eq_ok

end Checks

end OperationGate
