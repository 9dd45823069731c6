import Mathlib
import OperationGate.Proofs.Selection.Collected

/-!
# How far selections go down

Without cycles every fragment has a height: one more than that of the highest fragment that it
spreads (`Cycles.exists_isHeight`). The extent of a selection puts two numbers together, the height
that its spreads come to and then its own depth. It goes down from a field or an inline fragment to
what is inside, where the height does not grow and the depth gets less, and from a spread to what
its fragment selects, where the height gets less (`Selection.extent_lt_of_below`). So the selections
inside all fields that are collected, from whatever fragments, have a smaller extent than the
selection set that they are collected from (`Collected.Collects.extent_lt`).
-/

namespace OperationGate

namespace Cycles

variable {fragments : Table WrittenFragment} {height : String → ℕ}

/-- Tells that a fragment without spreads has the height zero, and any other is higher by one than
the highest that it spreads. -/
def IsHeight (fragments : Table WrittenFragment) (height : String → ℕ) : Prop :=
  ∀ a, height a = (spreadsOf fragments a).toFinset.sup fun b => height b + 1

lemma IsHeight.lt_of_spreads (h : IsHeight fragments height) {a b : String}
    (hab : Spreads fragments a b) : height b < height a := by
  have hle : height b + 1 ≤ (spreadsOf fragments a).toFinset.sup fun b => height b + 1 :=
    Finset.le_sup (f := fun b => height b + 1) (List.mem_toFinset.2 hab)
  rw [← h a] at hle
  exact hle

/-- Fragments that have heights have no cycles. -/
lemma IsHeight.isAcyclic (h : IsHeight fragments height) : IsAcyclic fragments := by
  have hlt : ∀ {a b}, Relation.TransGen (Spreads fragments) a b → height b < height a := by
    intro a b hab
    induction hab with
    | single hab => exact h.lt_of_spreads hab
    | tail _ hbc ih => exact (h.lt_of_spreads hbc).trans ih
  exact fun n hn => absurd (hlt hn) (lt_irrefl _)

/-- Fragments without cycles have heights. -/
theorem exists_isHeight (hacyclic : IsAcyclic fragments) : ∃ height, IsHeight fragments height := by
  have hwf := wellFounded_of_isAcyclic hacyclic
  refine ⟨hwf.fix fun a below =>
    (spreadsOf fragments a).toFinset.attach.sup fun b =>
      below b (List.mem_toFinset.1 b.2) + 1, fun a => ?_⟩
  rw [hwf.fix_eq]
  exact Finset.sup_attach (spreadsOf fragments a).toFinset fun b =>
    hwf.fix (fun a below =>
      (spreadsOf fragments a).toFinset.attach.sup fun b =>
        below b (List.mem_toFinset.1 b.2) + 1) b + 1

end Cycles

namespace Selection

mutual

/-- How deep the selections inside a selection are written. -/
def depth : Selection → ℕ
  | .field _ _ inside => maxDepth inside + 1
  | .spread _ => 1
  | .inline _ inside => maxDepth inside + 1

/-- The depth of the deepest of several selections. -/
def maxDepth : List Selection → ℕ
  | [] => 0
  | x :: rest => max x.depth (maxDepth rest)

end

lemma depth_le_maxDepth {x : Selection} {selections : List Selection} (h : x ∈ selections) :
    x.depth ≤ maxDepth selections := by
  induction selections with
  | nil => cases h
  | cons y rest ih =>
    rw [maxDepth]
    rcases List.mem_cons.1 h with rfl | h
    · exact le_max_left _ _
    · exact (ih h).trans (le_max_right _ _)

lemma depth_pos (x : Selection) : 0 < x.depth := by
  cases x <;> simp [depth]

/-- One more than the height of the highest fragment that a selection spreads, at any depth. -/
def rise (height : String → ℕ) (x : Selection) : ℕ :=
  x.spreads.toFinset.sup fun n => height n + 1

lemma rise_mono {height : String → ℕ} {x y : Selection} (h : ∀ n ∈ y.spreads, n ∈ x.spreads) :
    y.rise height ≤ x.rise height :=
  Finset.sup_mono fun n hn => List.mem_toFinset.2 (h n (List.mem_toFinset.1 hn))

/-- The extent of a selection: first the height that its spreads come to, then its depth. -/
def extent (height : String → ℕ) (x : Selection) : ℕ ×ₗ ℕ :=
  toLex (x.rise height, x.depth)

/-- The greatest extent of several selections. -/
def maxExtent (height : String → ℕ) : List Selection → ℕ ×ₗ ℕ
  | [] => ⊥
  | x :: rest => max (x.extent height) (maxExtent height rest)

variable {height : String → ℕ} {selections : List Selection}

lemma bot_lt_extent (x : Selection) : ⊥ < x.extent height := by
  refine bot_lt_iff_ne_bot.2 fun h => ?_
  have hdepth : x.depth = 0 := congrArg (fun e => (ofLex e).2) h
  exact absurd hdepth x.depth_pos.ne'

lemma extent_le_maxExtent {x : Selection} (h : x ∈ selections) :
    x.extent height ≤ maxExtent height selections := by
  induction selections with
  | nil => cases h
  | cons y rest ih =>
    rw [maxExtent]
    rcases List.mem_cons.1 h with rfl | h
    · exact le_max_left _ _
    · exact (ih h).trans (le_max_right _ _)

/-- Selections of smaller extents have a smaller greatest extent. -/
lemma maxExtent_lt {e : ℕ ×ₗ ℕ} (he : ⊥ < e) (h : ∀ x ∈ selections, x.extent height < e) :
    maxExtent height selections < e := by
  induction selections with
  | nil => exact he
  | cons y rest ih =>
    rw [maxExtent]
    exact max_lt (h y List.mem_cons_self) (ih fun x hx => h x (List.mem_cons_of_mem y hx))

/-- A selection is directly below another: inside it, or selected by the fragment that it
spreads. -/
inductive Below (fragments : Table WrittenFragment) (y : Selection) : Selection → Prop where
  | field {aliasName : Option String} {name : String} {inside : List Selection} :
    y ∈ inside → Below fragments y (.field aliasName name inside)
  | inline {condition : Option String} {inside : List Selection} :
    y ∈ inside → Below fragments y (.inline condition inside)
  | spread {n : String} {f : WrittenFragment} :
    fragments.get? n = some f → y ∈ f.selections → Below fragments y (.spread n)

variable {fragments : Table WrittenFragment}

/-- What is inside has no more spreads and is less deep. -/
lemma extent_lt_of_inside {x y : Selection} {inside : List Selection}
    (hspreads : x.spreads = allSpreads inside) (hdepth : x.depth = maxDepth inside + 1)
    (hy : y ∈ inside) : y.extent height < x.extent height := by
  have hrise : y.rise height ≤ x.rise height :=
    rise_mono fun n hn => hspreads ▸ mem_allSpreads_iff.2 ⟨y, hy, hn⟩
  have hlt : y.depth < x.depth := by
    rw [hdepth]
    exact Nat.lt_succ_of_le (depth_le_maxDepth hy)
  rw [extent, extent, Prod.Lex.toLex_lt_toLex]
  rcases hrise.lt_or_eq with h | h
  · exact .inl h
  · exact .inr ⟨h, hlt⟩

/-- The extent gets less on the way down. -/
theorem extent_lt_of_below (hheight : Cycles.IsHeight fragments height) {x y : Selection}
    (h : Below fragments y x) : y.extent height < x.extent height := by
  cases h with
  | field hy => exact extent_lt_of_inside (by rw [spreads]) (by rw [depth]) hy
  | inline hy => exact extent_lt_of_inside (by rw [spreads]) (by rw [depth]) hy
  | @spread n f hf hy =>
    -- All that the fragment spreads is lower than the fragment.
    have hrise : y.rise height < (Selection.spread n).rise height := by
      have hlower : ∀ m ∈ y.spreads, height m + 1 ≤ height n := fun m hm =>
        hheight.lt_of_spreads (Cycles.spreads_iff.2 ⟨f, hf, mem_allSpreads_iff.2 ⟨y, hy, hm⟩⟩)
      have hspread : (Selection.spread n).rise height = height n + 1 := by simp [rise, spreads]
      rw [hspread]
      exact Nat.lt_succ_of_le (Finset.sup_le fun m hm => hlower m (List.mem_toFinset.1 hm))
    rw [extent, extent, Prod.Lex.toLex_lt_toLex]
    exact .inl hrise

/-- All that is below one selection of a set has a smaller extent than the set. -/
lemma maxExtent_lt_of_below (hheight : Cycles.IsHeight fragments height) {x : Selection}
    (hx : x ∈ selections) {below : List Selection} (h : ∀ y ∈ below, Below fragments y x) :
    maxExtent height below < maxExtent height selections :=
  (maxExtent_lt (bot_lt_extent x) fun y hy => extent_lt_of_below hheight (h y hy)).trans_le
    (extent_le_maxExtent hx)

end Selection

namespace Collected

open Selection

/-- What is selected inside a field has a smaller extent than the selection set that the field is
collected from. -/
theorem Collects.extent_lt {s : Schema} {fragments : Table WrittenFragment} {height : String → ℕ}
    (hheight : Cycles.IsHeight fragments height) {concrete parent : String}
    {selections : List Selection} {fs : List Collected}
    (h : Collects s fragments concrete parent selections fs) {f : Collected} (hf : f ∈ fs)
    {y : Selection} (hy : y ∈ f.selections) : y.extent height < maxExtent height selections := by
  have hrest : ∀ {x : Selection} {rest : List Selection}, maxExtent height rest ≤
      maxExtent height (x :: rest) :=
    fun {x rest} => le_max_right (x.extent height) (maxExtent height rest)
  induction h with
  | nil => cases hf
  | field aliasName name inside _ ih =>
    rcases List.mem_cons.1 hf with rfl | hf
    · exact (extent_lt_of_below hheight (.field hy)).trans_le
        (extent_le_maxExtent List.mem_cons_self)
    · exact (ih hf).trans_le hrest
  | inline _ _ _ ihinside ih =>
    rcases List.mem_append.1 hf with hf | hf
    · exact (ihinside hf).trans
        (maxExtent_lt_of_below hheight List.mem_cons_self fun y hy => .inline hy)
    · exact (ih hf).trans_le hrest
  | inlineSkipped _ _ _ ih => exact (ih hf).trans_le hrest
  | spread hget _ _ _ ihinside ih =>
    rcases List.mem_append.1 hf with hf | hf
    · exact (ihinside hf).trans
        (maxExtent_lt_of_below hheight List.mem_cons_self fun y hy => .spread hget hy)
    · exact (ih hf).trans_le hrest
  | spreadSkipped _ _ ih => exact (ih hf).trans_le hrest

end Collected

end OperationGate
