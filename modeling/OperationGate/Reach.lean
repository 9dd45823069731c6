/-!
# Reachability

What can be reached by following names among finitely many. A name that is reached is taken out of
those that remain, so the walk ends whatever cycles the names form.

`mem_gather_iff` says that the walk finds exactly the names that a path leads to.
-/

namespace OperationGate.Reach

variable {next : String → List String}

/-- The names reached from those pending, in the order of their first visit. Only names that remain
are visited, each once. -/
def gather (next : String → List String) (remaining : List String) : List String → List String
  | [] => []
  | n :: pending =>
    if n ∈ remaining then n :: gather next (remaining.erase n) (next n ++ pending)
    else gather next remaining pending
termination_by pending => (remaining.length, pending.length)
decreasing_by
  · next h =>
    rw [List.length_erase_of_mem h]
    have := List.length_pos_of_mem h
    exact Prod.Lex.left _ _ (by omega)
  · exact Prod.Lex.right _ (by simp)

/-- A path of names within a domain leads from one of the starts to a name. -/
inductive Leads (next : String → List String) (domain starts : List String) : String → Prop where
  | start {n : String} : n ∈ domain → n ∈ starts → Leads next domain starts n
  | step {m n : String} :
    Leads next domain starts m → n ∈ domain → n ∈ next m → Leads next domain starts n

/-- A path stays within its domain. -/
theorem Leads.mem_domain {domain starts : List String} {n : String}
    (h : Leads next domain starts n) : n ∈ domain := by
  cases h with
  | start h _ => exact h
  | step _ h _ => exact h

/-- A start that is outside the domain leads nowhere. -/
theorem Leads.of_not_mem {domain starts : List String} {m n : String} (hm : m ∉ domain)
    (h : Leads next domain (m :: starts) n) : Leads next domain starts n := by
  induction h with
  | start hn hs =>
    rcases List.mem_cons.1 hs with rfl | hs
    · exact absurd hn hm
    · exact .start hn hs
  | step _ hn hs ih => exact .step ih hn hs

/-- More starts lead no less far. -/
theorem Leads.cons {domain starts : List String} {m n : String} (h : Leads next domain starts n) :
    Leads next domain (m :: starts) n := by
  induction h with
  | start hn hs => exact .start hn (List.mem_cons_of_mem _ hs)
  | step _ hn hs ih => exact .step ih hn hs

/-- What is reached from the names that follow one is reached from where that one is. -/
theorem Leads.of_next {domain starts : List String} {m n : String}
    (h : Leads next domain (next m) n) (hm : Leads next domain starts m) :
    Leads next domain starts n := by
  induction h with
  | start hn hs => exact .step hm hn hs
  | step _ hn hs ih => exact .step ih hn hs

/-- What is reached after visiting a name was reached before. -/
theorem Leads.of_visited {domain starts : List String} {m n : String} (hm : m ∈ domain)
    (h : Leads next (domain.erase m) (next m ++ starts) n) : Leads next domain (m :: starts) n := by
  induction h with
  | start hn hs =>
    have hn := List.mem_of_mem_erase hn
    rcases List.mem_append.1 hs with hs | hs
    · exact .step (.start hm List.mem_cons_self) hn hs
    · exact .start hn (List.mem_cons_of_mem _ hs)
  | step _ hn hs ih => exact .step ih (List.mem_of_mem_erase hn) hs

/-- What was reached before visiting a name, other than the name, is reached after. -/
theorem Leads.visited {domain starts : List String} {m n : String}
    (h : Leads next domain (m :: starts) n) (hne : n ≠ m) :
    Leads next (domain.erase m) (next m ++ starts) n := by
  induction h with
  | start hn hs =>
    refine .start ((List.mem_erase_of_ne hne).2 hn) ?_
    rcases List.mem_cons.1 hs with h | hs
    · exact absurd h hne
    · exact List.mem_append_right _ hs
  | @step k n _ hn hs ih =>
    have hn := (List.mem_erase_of_ne hne).2 hn
    by_cases hk : k = m
    · subst hk
      exact .start hn (List.mem_append_left _ hs)
    · exact .step (ih hk) hn hs

/-- The names gathered are those that a path leads to. -/
theorem mem_gather_iff {remaining pending : List String} {n : String} :
    n ∈ gather next remaining pending ↔ Leads next remaining pending n := by
  fun_induction gather next remaining pending with
  | case1 remaining =>
    refine ⟨fun h => absurd h List.not_mem_nil, fun h => ?_⟩
    induction h with
    | start _ h => exact absurd h List.not_mem_nil
    | step _ _ _ ih => exact absurd ih List.not_mem_nil
  | case2 remaining m pending hm ih =>
    rw [List.mem_cons, ih]
    constructor
    · rintro (rfl | h)
      · exact .start hm List.mem_cons_self
      · exact h.of_visited hm
    · intro h
      by_cases hn : n = m
      · exact .inl hn
      · exact .inr (h.visited hn)
  | case3 remaining m pending hm ih =>
    rw [ih]
    exact ⟨Leads.cons, Leads.of_not_mem hm⟩

end OperationGate.Reach
