import Mathlib.Data.List.Nodup
import OperationGate.Reach

/-!
# Walks end

A walk keeps the names that it was at and does not visit them again. `Walks` says how it goes on,
with nothing that would bound it. In a finite domain it ends nevertheless, in one way, and it was at
the names that are gathered (`walks_iff`).
-/

namespace OperationGate.Reach

variable {next : String → List String} {domain visited remaining pending r : List String}
  {n : String}

/-- The names of a domain are those that were visited and those that remain, each of which remains
once. -/
structure Remains (domain visited remaining : List String) : Prop where
  mem_iff : ∀ n, n ∈ domain ↔ n ∈ remaining ∨ n ∈ visited
  apart : ∀ n ∈ remaining, n ∉ visited
  once : remaining.Nodup

/-- At first all names remain. -/
lemma remains_nil (h : domain.Nodup) : Remains domain [] domain where
  mem_iff := by simp
  apart := by simp
  once := h

/-- A name that is visited does not remain. -/
lemma Remains.visit (h : Remains domain visited remaining) (hn : n ∈ remaining) :
    Remains domain (n :: visited) (remaining.erase n) where
  mem_iff := by
    intro m
    rw [h.mem_iff, List.mem_cons]
    by_cases hm : m = n
    · simp [hm, hn]
    · simp [hm, List.mem_erase_of_ne hm]
  apart := by
    intro m hm
    rw [h.once.mem_erase_iff] at hm
    rw [List.mem_cons, not_or]
    exact ⟨hm.1, h.apart m hm.2⟩
  once := h.once.erase n

/-- How a walk goes on from pending names: it passes over a name that is outside its domain or that
it was at; at any other name it goes wherever that leads, and then on from there. -/
inductive Walks (next : String → List String) (domain : List String) :
    List String → List String → List String → Prop where
  | nil {visited : List String} : Walks next domain visited [] visited
  | pass {visited rest r : List String} {n : String} :
    n ∉ domain ∨ n ∈ visited → Walks next domain visited rest r →
    Walks next domain visited (n :: rest) r
  | visit {visited below rest r : List String} {n : String} :
    n ∈ domain → n ∉ visited → Walks next domain (n :: visited) (next n) below →
      Walks next domain below rest r → Walks next domain visited (n :: rest) r

/-- A walk goes on in one way only. -/
lemma Walks.unique {r' : List String} (h : Walks next domain visited pending r)
    (h' : Walks next domain visited pending r') : r = r' := by
  induction h generalizing r' with
  | nil => cases h'; rfl
  | pass hpass _ ih =>
    cases h' with
    | pass _ h' => exact ih h'
    | visit hn hnew _ _ => exact absurd hpass (not_or.2 ⟨not_not.2 hn, hnew⟩)
  | visit hn hnew _ _ ihbelow ih =>
    cases h' with
    | pass hpass _ => exact absurd hpass (not_or.2 ⟨not_not.2 hn, hnew⟩)
    | visit _ _ hbelow h' =>
      cases ihbelow hbelow
      exact ih h'

/-- A walk from some names and then others stops between them. -/
lemma Walks.split {starts rest : List String} (h : Walks next domain visited (starts ++ rest) r) :
    ∃ below, Walks next domain visited starts below ∧ Walks next domain below rest r := by
  induction starts generalizing visited with
  | nil => exact ⟨visited, .nil, h⟩
  | cons n starts ih =>
    cases h with
    | pass hpass h =>
      obtain ⟨below, hstarts, hrest⟩ := ih h
      exact ⟨below, .pass hpass hstarts, hrest⟩
    | visit hn hnew hnext h =>
      obtain ⟨below, hstarts, hrest⟩ := ih h
      exact ⟨below, .visit hn hnew hnext hstarts, hrest⟩

/-- The walk ends: it visits names that remain only, and there is one less each time. -/
lemma walks_gather (h : Remains domain visited remaining) :
    Walks next domain visited pending ((gather next remaining pending).reverse ++ visited) := by
  fun_induction gather next remaining pending generalizing visited with
  | case1 remaining => exact .nil
  | case2 remaining n pending hn ih =>
    obtain ⟨below, hbelow, hrest⟩ := (ih (h.visit hn)).split
    rw [List.reverse_cons, List.append_assoc, List.singleton_append]
    exact .visit ((h.mem_iff n).2 (.inl hn)) (h.apart n hn) hbelow hrest
  | case3 remaining n pending hn ih =>
    refine .pass ?_ (ih h)
    by_cases hdomain : n ∈ domain
    · exact .inr (((h.mem_iff n).1 hdomain).resolve_left hn)
    · exact .inl hdomain

/-- A walk ends, in one way: it was at the names that are gathered. -/
theorem walks_iff (h : domain.Nodup) :
    Walks next domain [] pending r ↔ r = (gather next domain pending).reverse := by
  have hends := @walks_gather next domain [] domain pending (remains_nil h)
  rw [List.append_nil] at hends
  exact ⟨fun hr => hr.unique hends, fun hr => hr ▸ hends⟩

end OperationGate.Reach
