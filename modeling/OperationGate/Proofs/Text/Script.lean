import Mathlib.Algebra.Ring.Parity
import Mathlib.Data.List.TakeWhile
import OperationGate.Json.Source
import OperationGate.Text.Cut
import OperationGate.Text.Literal

/-!
# Literals in scripts

What a script makes of a single-quoted literal: `evaluate` reads one up to its closing quote, with
all the escapes that a module may hold, and gives the units of 16 bits of its value. A text that is
quoted evaluates to its own units (`evaluate?_body`), and they tell it from all others
(`units_inj`). A text with literals is taken apart where they stand (`split?`), and if no quote
stands between them, it is taken apart at the literals it was put together from (`split?_written`).
-/

namespace OperationGate.Text.Literal

/-! ## Escaped characters -/

/-- A character of a literal stands after a backslash, or for itself. -/
lemma cases_escape (c : Char) :
    (∃ d, escape c = ['\\', d] ∧ d ≠ '\n' ∧ d ≠ '\r') ∨
      escape c = [c] ∧ c ≠ '\'' ∧ c ≠ '\\' ∧ c ≠ '\n' ∧ c ≠ '\r' := by
  unfold escape
  split
  next => exact .inl ⟨'\'', rfl, by decide, by decide⟩
  next hquote =>
    split
    next => exact .inl ⟨'\\', rfl, by decide, by decide⟩
    next hslash =>
      split
      next => exact .inl ⟨'n', rfl, by decide, by decide⟩
      next hfeed =>
        split
        next => exact .inl ⟨'r', rfl, by decide, by decide⟩
        next hreturn => exact .inr ⟨rfl, hquote, hslash, hfeed, hreturn⟩

lemma body_cons (c : Char) (cs : List Char) : body (c :: cs) = escape c ++ body cs := rfl

/-- How many backslashes stand at the end of a text. -/
def slashes (cs : List Char) : Nat :=
  (cs.reverse.takeWhile (· = '\\')).length

lemma slashes_append (cs ds : List Char) :
    slashes (cs ++ ds) = if ds.all (· = '\\') then slashes ds + slashes cs else slashes ds := by
  have hall : (ds.reverse.takeWhile (· = '\\')).length = ds.reverse.length ↔ ds.all (· = '\\') := by
    rw [show _ ↔ _ from ⟨(List.takeWhile_prefix _).eq_of_length, congrArg _⟩,
      List.takeWhile_eq_self_iff]
    simp only [List.mem_reverse, List.all_eq_true]
  rw [slashes, List.reverse_append, List.takeWhile_append, slashes, slashes]
  simp only [hall]
  split
  next h => rw [List.length_append, hall.2 h]
  next => rfl

lemma even_slashes_append {cs : List Char} (h : Even (slashes cs)) (ds : List Char) :
    Even (slashes (cs ++ ds)) ↔ Even (slashes ds) := by
  rw [slashes_append]
  split
  · rw [Nat.even_add, iff_true_right h]
  · exact Iff.rfl

lemma even_slashes_escape (c : Char) : Even (slashes (escape c)) := by
  rcases cases_escape c with ⟨d, h, -⟩ | ⟨h, -, hslash, -⟩
  · rw [h]
    by_cases hd : d = '\\'
    · subst hd; decide
    · simp [slashes, hd]
  · simp [h, slashes, hslash]

/-- Tells what keeps a text between two quotes: no line ends in it, every quote in it stands after
an odd number of backslashes, so that one is left to escape it, and an even number of them stands at
its end, so that none is left. -/
structure IsEnclosed (inside : List Char) : Prop where
  feed : '\n' ∉ inside
  carriage : '\r' ∉ inside
  quote {front back : List Char} : inside = front ++ '\'' :: back → Odd (slashes front)
  last : Even (slashes inside)

/-- Before a quote among the characters of an escaped one there is a backslash alone. -/
lemma eq_slash_of_escape {c : Char} {front back : List Char}
    (h : escape c = front ++ '\'' :: back) : front = ['\\'] := by
  rcases cases_escape c with ⟨d, he, -⟩ | ⟨he, hquote, -⟩
  · rw [he] at h
    rcases front with _ | ⟨a, _ | ⟨b, front⟩⟩
    · simp at h
    · rw [(List.cons.inj h).1]
    · simp at h
  · rw [he] at h
    rcases front with _ | ⟨a, front⟩
    · exact absurd (List.cons.inj h).1 hquote
    · simp at h

lemma isEnclosed_body (cs : List Char) : IsEnclosed (body cs) := by
  induction cs with
  | nil => exact ⟨List.not_mem_nil, List.not_mem_nil, by simp [body], by decide⟩
  | cons c cs ih =>
    refine ⟨?_, ?_, fun {front back} h => ?_, ?_⟩
    all_goals rw [body_cons] at *
    · rcases cases_escape c with ⟨d, h, hfeed, -⟩ | ⟨h, -, -, hfeed, -⟩
      all_goals simp [h, ih.feed, hfeed.symm]
    · rcases cases_escape c with ⟨d, h, -, hreturn⟩ | ⟨h, -, -, -, hreturn⟩
      all_goals simp [h, ih.carriage, hreturn.symm]
    · -- The quote is the escaped character, or it stands after all of it.
      obtain rfl | ⟨front', rfl, h'⟩ : front = ['\\'] ∨ ∃ f, front = escape c ++ f ∧
          body cs = f ++ '\'' :: back := by
        rcases List.append_eq_append_iff.1 h with hafter | ⟨inside, he, hrest⟩
        · exact .inr hafter
        · cases inside with
          | nil => exact .inr ⟨[], by simp [he], hrest.symm⟩
          | cons a inside =>
            obtain ⟨rfl, -⟩ := List.cons.inj hrest
            exact .inl (eq_slash_of_escape he)
      · decide
      · rw [← Nat.not_even_iff_odd, even_slashes_append (even_slashes_escape c),
          Nat.not_even_iff_odd]
        exact ih.quote h'
    · exact (even_slashes_append (even_slashes_escape c) _).2 ih.last

/-! ## Evaluation -/

/-- The units of 16 bits of a code point: itself, or a high and a low surrogate. -/
def unitsOfPoint (n : Nat) : List Nat :=
  if n < 0x10000 then [n] else [0xD800 + (n - 0x10000) / 0x400, 0xDC00 + (n - 0x10000) % 0x400]

/-- The units of 16 bits that a script has for a text. -/
def units (cs : List Char) : List Nat :=
  cs.flatMap fun c => unitsOfPoint c.toNat

/-- What is read of a text, and the rest of it. -/
abbrev Front (α : Type) (cs : List Char) :=
  Option { r : α × List Char // r.2 <:+ cs }

/-- The number that hexadecimal digits stand for, of which there is one at least. -/
def hexadecimal? (digits : List Char) : Option Nat :=
  if digits = [] then none
    else (digits.mapM Json.Source.hexDigit?).map (·.foldl (fun n d => 16 * n + d) 0)

/-- Reads a unit of a given number of hexadecimal digits. -/
def readUnit (length : Nat) (cs : List Char) : Front (List Nat) cs :=
  if cs.length < length then none
  else (hexadecimal? (cs.take length)).map fun n => ⟨([n], cs.drop length), List.drop_suffix _ _⟩

/-- Reads a code point of hexadecimal digits up to a closing brace. -/
def readPoint (cs : List Char) : Front (List Nat) cs :=
  let tail := cs.dropWhile (· ≠ '\x7d')
  if tail = [] then none
  else
    (hexadecimal? (cs.takeWhile (· ≠ '\x7d'))).bind fun n =>
      if n ≤ 0x10FFFF then
        some ⟨(unitsOfPoint n, tail.tail), (List.tail_suffix _).trans (List.dropWhile_suffix _)⟩
      else none

/-- The control character that a letter stands for after a backslash. -/
def control? : Char → Option Nat
  | 'b' => some 8
  | 't' => some 9
  | 'n' => some 10
  | 'v' => some 11
  | 'f' => some 12
  | 'r' => some 13
  | _ => none

/-- Reads what stands after a backslash. The end of a line stands for nothing, and so do a carriage
return and a line feed together. Digits but for a zero without a digit after it are refused, as they
are in every module. -/
def readEscape (cs : List Char) : Front (List Nat) cs :=
  match cs with
  | [] => none
  | '\r' :: '\n' :: rest => some ⟨([], rest), (List.suffix_cons _ _).trans (List.suffix_cons _ _)⟩
  | 'u' :: '\x7b' :: rest =>
    (readPoint rest).map fun r =>
      ⟨r.1, r.2.trans ((List.suffix_cons _ _).trans (List.suffix_cons _ _))⟩
  | 'u' :: rest => (readUnit 4 rest).map fun r => ⟨r.1, r.2.trans (List.suffix_cons _ _)⟩
  | 'x' :: rest => (readUnit 2 rest).map fun r => ⟨r.1, r.2.trans (List.suffix_cons _ _)⟩
  | c :: rest =>
    if c = '\n' || c = '\r' || c = '\u2028' || c = '\u2029' then
      some ⟨([], rest), List.suffix_cons _ _⟩
    else if c.isDigit && (c ≠ '0' || rest.head?.any Char.isDigit) then none
    else if c = '0' then some ⟨([0], rest), List.suffix_cons _ _⟩
    else some ⟨((control? c).elim (unitsOfPoint c.toNat) fun n => [n], rest), List.suffix_cons _ _⟩

/-- Evaluates a literal after its opening quote: the units of its value, and what follows its
closing quote. Neither a line feed nor a carriage return may stand in it as it is. -/
def evaluate (cs : List Char) : Front (List Nat) cs :=
  match cs with
  | [] => none
  | c :: rest =>
    if c = '\'' then some ⟨([], rest), List.suffix_cons _ _⟩
    else if c = '\\' then
      match readEscape rest with
      | none => none
      | some ⟨(us, r), hr⟩ =>
        (evaluate r).map fun e =>
          ⟨(us ++ e.1.1, e.1.2), (e.2.trans hr).trans (List.suffix_cons _ _)⟩
    else if c = '\n' || c = '\r' then none
    else (evaluate rest).map fun e =>
      ⟨(unitsOfPoint c.toNat ++ e.1.1, e.1.2), e.2.trans (List.suffix_cons _ _)⟩
termination_by cs.length
decreasing_by
  · exact Nat.lt_succ_of_le hr.length_le
  · exact Nat.lt_succ_self _

section Evaluation

variable {c : Char} {us : List Nat} {cs r rest : List Char}

/-- The value of a literal after its opening quote, and what follows the literal. -/
def evaluate? (cs : List Char) : Option (List Nat × List Char) :=
  (evaluate cs).map (·.1)

lemma evaluate?_quote (rest : List Char) : evaluate? ('\'' :: rest) = some ([], rest) := by
  rw [evaluate?, evaluate, if_pos rfl]
  rfl

lemma evaluate?_slash {h : r <:+ rest} (he : readEscape rest = some ⟨(us, r), h⟩) :
    evaluate? ('\\' :: rest) = (evaluate? r).map fun e => (us ++ e.1, e.2) := by
  rw [evaluate?, evaluate, if_neg (by decide), if_pos rfl, he, Option.map_map,
    evaluate?, Option.map_map]
  rfl

lemma evaluate?_cons (hquote : c ≠ '\'') (hslash : c ≠ '\\') (hfeed : c ≠ '\n')
    (hreturn : c ≠ '\r') :
    evaluate? (c :: rest) = (evaluate? rest).map fun e => (unitsOfPoint c.toNat ++ e.1, e.2) := by
  rw [evaluate?, evaluate, if_neg hquote, if_neg hslash, if_neg (by simp [hfeed, hreturn]),
    Option.map_map, evaluate?, Option.map_map]
  rfl

/-- An escaped character is evaluated to its own units. -/
lemma evaluate?_escape (c : Char) (rest : List Char) :
    evaluate? (escape c ++ rest) = (evaluate? rest).map fun e =>
    (unitsOfPoint c.toNat ++ e.1, e.2) := by
  unfold escape
  split
  next h => subst h; exact evaluate?_slash rfl
  next hquote =>
    split
    next h => subst h; exact evaluate?_slash rfl
    next hslash =>
      split
      next h => subst h; exact evaluate?_slash rfl
      next hfeed =>
        split
        next h => subst h; exact evaluate?_slash rfl
        next hreturn => exact evaluate?_cons hquote hslash hfeed hreturn

theorem evaluate?_body (cs rest : List Char) :
    evaluate? (body cs ++ rest) = (evaluate? rest).map fun e => (units cs ++ e.1, e.2) := by
  induction cs with
  | nil => exact Option.map_id'.symm
  | cons c cs ih =>
    rw [body_cons, List.append_assoc, evaluate?_escape, ih, Option.map_map]
    refine congrArg (Option.map · _) (funext fun e => ?_)
    rw [Function.comp, ← List.append_assoc]
    rfl

/-- The value of a text that is one literal. -/
def value? (s : String) : Option (List Nat) :=
  match s.toList with
  | '\'' :: rest =>
    match evaluate? rest with
    | some (us, []) => some us
    | _ => none
  | _ => none

lemma value?_quote (s : String) : value? (quote s) = some (units s.toList) := by
  have hbody : evaluate? (body s.toList ++ ['\'']) = some (units s.toList ++ [], []) := by
    rw [evaluate?_body, evaluate?_quote]
    rfl
  rw [value?, quote, String.toList_ofList]
  simp only [List.cons_append, hbody, List.append_nil]

/-- The units at the front of a text tell its first character. -/
lemma unitsOfPoint_append_inj {c d : Char} {us vs : List Nat}
    (h : unitsOfPoint c.toNat ++ us = unitsOfPoint d.toNat ++ vs) : c = d ∧ us = vs := by
  have hc : c.toNat < 0xD800 ∨ 0xDFFF < c.toNat ∧ c.toNat < 0x110000 := c.valid
  have hd : d.toNat < 0xD800 ∨ 0xDFFF < d.toNat ∧ d.toNat < 0x110000 := d.valid
  rw [← Char.toNat_inj]
  unfold unitsOfPoint at h
  split at h <;> split at h <;> simp only [List.cons_append, List.nil_append, List.cons.injEq] at h
  · exact h
  · omega
  · omega
  · exact ⟨by omega, h.2.2⟩

lemma units_cons (c : Char) (cs : List Char) : units (c :: cs) = unitsOfPoint c.toNat ++ units cs :=
  rfl

lemma unitsOfPoint_ne_nil (n : Nat) : unitsOfPoint n ≠ [] := by
  unfold unitsOfPoint
  split <;> exact List.cons_ne_nil _ _

/-- Texts with the same units are the same. -/
theorem units_inj {cs ds : List Char} : units cs = units ds ↔ cs = ds := by
  refine ⟨fun h => ?_, congrArg units⟩
  induction cs generalizing ds with
  | nil =>
    cases ds with
    | nil => rfl
    | cons d ds => exact absurd (List.append_eq_nil_iff.1 h.symm).1 (unitsOfPoint_ne_nil _)
  | cons c cs ih =>
    cases ds with
    | nil => exact absurd (List.append_eq_nil_iff.1 h).1 (unitsOfPoint_ne_nil _)
    | cons d ds =>
      rw [units_cons, units_cons] at h
      obtain ⟨hc, hcs⟩ := unitsOfPoint_append_inj h
      rw [hc, ih hcs]

end Evaluation

/-! ## Taking texts apart -/

/-- Puts a character in front of the text before the first of some literals. -/
def behind (c : Char) :
    List (List Char × List Nat) × List Char → List (List Char × List Nat) × List Char
  | ([], tail) => ([], c :: tail)
  | ((before, us) :: pieces, tail) => ((c :: before, us) :: pieces, tail)

/-- Takes a text apart at its literals: each with the text before it, and the text after the last of
them. -/
def split? (cs : List Char) : Option (List (List Char × List Nat) × List Char) :=
  match cs with
  | [] => some ([], [])
  | c :: rest =>
    if c = '\'' then
      match evaluate rest with
      | none => none
      | some ⟨(us, r), _⟩ => (split? r).map fun p => (([], us) :: p.1, p.2)
    else (split? rest).map (behind c)
termination_by cs.length
decreasing_by
  · rename_i h
    exact Nat.lt_succ_of_le h.length_le
  · exact Nat.lt_succ_self _

/-- Tells that no quote stands in a text. -/
def IsUnquoted (s : String) : Prop :=
  '\'' ∉ s.toList

instance (s : String) : Decidable (IsUnquoted s) :=
  inferInstanceAs (Decidable ('\'' ∉ s.toList))

lemma IsUnquoted.append {s t : String} (hs : IsUnquoted s) (ht : IsUnquoted t) :
    IsUnquoted (s ++ t) := by
  rw [IsUnquoted, String.toList_append, List.mem_append, not_or]
  exact ⟨hs, ht⟩

/-- A text that is written out is read off its characters, without decoding it. -/
lemma IsUnquoted.ofList {cs : List Char} (h : '\'' ∉ cs) : IsUnquoted (String.ofList cs) := by
  rwa [IsUnquoted, String.toList_ofList]

/-- A text without quotes stands between two texts that are written out. -/
lemma IsUnquoted.between {s : String} {cs ds : List Char} (hs : IsUnquoted s) (hcs : '\'' ∉ cs)
    (hds : '\'' ∉ ds) : IsUnquoted (String.ofList cs ++ s ++ String.ofList ds) :=
  ((IsUnquoted.ofList hcs).append hs).append (.ofList hds)

/-- Texts, each followed by the literal of another, and a text after them. -/
def written (pieces : List (String × String)) (tail : String) : String :=
  String.join (pieces.map fun p => p.1 ++ quote p.2) ++ tail

section Splitting

variable {cs r : List Char} {us : List Nat}

lemma split?_cons (h : evaluate? cs = some (us, r)) :
    split? ('\'' :: cs) = (split? r).map fun p => (([], us) :: p.1, p.2) := by
  obtain ⟨⟨_, hr⟩, he, rfl⟩ := Option.map_eq_some_iff.1 h
  rw [split?, if_pos rfl, he]

lemma split?_quote (s : String) (rest : List Char) :
    split? ((quote s).toList ++ rest) = (split? rest).map fun p =>
    (([], units s.toList) :: p.1, p.2) := by
  have hbody : evaluate? (body s.toList ++ '\'' :: rest) = some (units s.toList, rest) := by
    rw [evaluate?_body, evaluate?_quote, Option.map_some, List.append_nil]
  rw [← split?_cons hbody, quote, String.toList_ofList, List.append_assoc]
  rfl

lemma split?_plain (h : '\'' ∉ cs) (rest : List Char) :
    split? (cs ++ rest) = (split? rest).map fun p => cs.foldr behind p := by
  induction cs with
  | nil => exact Option.map_id'.symm
  | cons c cs ih =>
    rw [List.mem_cons, not_or] at h
    rw [List.cons_append, split?, if_neg (Ne.symm h.1), ih h.2, Option.map_map]
    rfl

lemma foldr_behind_nil (cs tail : List Char) : cs.foldr behind ([], tail) = ([], cs ++ tail) := by
  induction cs with
  | nil => rfl
  | cons c cs ih => rw [List.foldr_cons, ih]; rfl

lemma foldr_behind_cons (cs : List Char) (us : List Nat) (pieces : List (List Char × List Nat))
    (tail : List Char) :
    cs.foldr behind (([], us) :: pieces, tail) = ((cs, us) :: pieces, tail) := by
  induction cs with
  | nil => rfl
  | cons c cs ih => rw [List.foldr_cons, ih]; rfl

/-- A text is taken apart at the literals that it was put together from, if no quote stands between
them. -/
theorem split?_written {pieces : List (String × String)} {tail : String}
    (h : ∀ p ∈ pieces, IsUnquoted p.1) (htail : IsUnquoted tail) :
    split? (written pieces tail).toList =
      some (pieces.map fun p => (p.1.toList, units p.2.toList), tail.toList) := by
  induction pieces with
  | nil =>
    have hplain := split?_plain htail []
    rw [List.append_nil, split?, Option.map_some, foldr_behind_nil, List.append_nil] at hplain
    rw [written, List.map_nil, String.join_nil, String.empty_append, hplain, List.map_nil]
  | cons p pieces ih =>
    rw [List.forall_mem_cons] at h
    have hcons : (written (p :: pieces) tail).toList =
        p.1.toList ++ ((quote p.2).toList ++ (written pieces tail).toList) := by
      simp only [written, List.map_cons, String.join_cons, String.toList_append, List.append_assoc]
    rw [hcons, split?_plain h.1, split?_quote, ih h.2, Option.map_some, Option.map_some,
      foldr_behind_cons]
    rfl

end Splitting

/-! ## Texts with literals -/

/-- Tells that a text is put together from the literals of some texts, with no quote between
them. -/
def HasLiterals (text : String) (values : List String) : Prop :=
  ∃ pieces tail, text = written pieces tail ∧ (∀ p ∈ pieces, IsUnquoted p.1) ∧ IsUnquoted tail ∧
    pieces.map (·.2) = values

section Literals

variable {s t : String} {vs ws : List String}

lemma hasLiterals_unquoted (h : IsUnquoted s) : HasLiterals s [] :=
  ⟨[], s, by rw [written, List.map_nil, String.join_nil, String.empty_append], by simp, h, rfl⟩

lemma hasLiterals_quote (s : String) : HasLiterals (quote s) [s] := by
  refine ⟨[("", s)], "", ?_, List.forall_mem_singleton.2 List.not_mem_nil, List.not_mem_nil, rfl⟩
  simp [written]

lemma HasLiterals.append (hs : HasLiterals s vs) (ht : HasLiterals t ws) :
    HasLiterals (s ++ t) (vs ++ ws) := by
  obtain ⟨ps, a, rfl, hps, ha, rfl⟩ := hs
  obtain ⟨qs, b, rfl, hqs, hb, rfl⟩ := ht
  cases qs with
  | nil =>
    refine ⟨ps, a ++ b, ?_, hps, ha.append hb, by simp⟩
    simp only [written, List.map_nil, String.join_nil, String.empty_append, String.append_assoc]
  | cons q qs =>
    -- The text after the first literals goes before those that follow.
    rw [List.forall_mem_cons] at hqs
    refine ⟨ps ++ (a ++ q.1, q.2) :: qs, b, ?_, ?_, hb, by simp⟩
    · simp only [written, List.map_append, List.map_cons, String.join_append, String.join_cons,
        String.append_assoc]
    · rw [List.forall_mem_append, List.forall_mem_cons]
      exact ⟨hps, ha.append hqs.1, hqs.2⟩

lemma hasLiterals_ofList {cs : List Char} (h : '\'' ∉ cs) : HasLiterals (String.ofList cs) [] :=
  hasLiterals_unquoted (.ofList h)

/-- Literals stand between a text without quotes and one that is written out. -/
lemma HasLiterals.between {m : String} {cs : List Char} (hs : IsUnquoted s) (h : HasLiterals m vs)
    (hcs : '\'' ∉ cs) : HasLiterals (s ++ m ++ String.ofList cs) vs := by
  have hall := ((hasLiterals_unquoted hs).append h).append (hasLiterals_ofList hcs)
  rwa [List.nil_append, List.append_nil] at hall

lemma hasLiterals_join {α : Type} {text : α → String} {values : α → List String} {as : List α}
    (h : ∀ a ∈ as, HasLiterals (text a) (values a)) :
    HasLiterals (String.join (as.map text)) (as.flatMap values) := by
  induction as with
  | nil => exact hasLiterals_unquoted List.not_mem_nil
  | cons a as ih =>
    rw [List.forall_mem_cons] at h
    rw [List.map_cons, String.join_cons, List.flatMap_cons]
    exact h.1.append (ih h.2)

lemma hasLiterals_joinWith {α : Type} {sep : List Char} (hsep : '\'' ∉ sep) {text : α → String}
    {values : α → List String} {as : List α} (h : ∀ a ∈ as, HasLiterals (text a) (values a)) :
    HasLiterals (joinWith (String.ofList sep) (as.map text)) (as.flatMap values) := by
  induction as with
  | nil => exact hasLiterals_unquoted List.not_mem_nil
  | cons a as ih =>
    rw [List.forall_mem_cons] at h
    rw [List.flatMap_cons]
    cases as with
    | nil =>
      rw [List.flatMap_nil, List.append_nil]
      exact h.1
    | cons b bs =>
      have hfirst := h.1.append (hasLiterals_ofList hsep)
      rw [List.append_nil] at hfirst
      exact hfirst.append (ih h.2)

end Literals

end OperationGate.Text.Literal
