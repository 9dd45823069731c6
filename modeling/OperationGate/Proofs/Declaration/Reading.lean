import OperationGate.Json.Basic
import OperationGate.Proofs.Document.Names
import OperationGate.Proofs.Text.Parts
import OperationGate.Proofs.Text.Script

/-!
# Types read from their texts

A text is read as a type by its alternatives: the parts between the bars that stand outside all
brackets and quotes. An alternative is null, an array of what stands between its angle brackets, a
record of the members between its braces, or something else, whose values are left open.
`TypeText.IsType` tells which texts are types, and `TypeText.Inhabits` what the values of a type
are.

What stands in brackets is scanned as it is by itself (`pieces?_inside`), and texts that are put one
after the other are cut one after the other (`pieces?_append`); with these, the reading of a text
follows from the way it is put together (`inhabits_array_iff`, `inhabits_or_iff`,
`isType_recordText`, `isType_joinWith`).
-/

namespace OperationGate.TypeText

open Text

/-! ## What is open -/

/-- What is open at a place in a text. -/
inductive Opening where
  /-- A bracket that is to be closed by another. -/
  | bracket (closing : Char)
  /-- A quote that is to be closed by itself. -/
  | quote (mark : Char)
  /-- A backslash inside a quote. -/
  | escape
  deriving DecidableEq

/-- The bracket that closes another. -/
def closing? (c : Char) : Option Char :=
  if c = '(' then some ')'
  else if c = '[' then some ']'
  else if c = '\x7b' then some '\x7d'
  else if c = '<' then some '>'
  else none

/-- Tells whether a character is a bracket that closes another. -/
def isClosing (c : Char) : Bool :=
  c = ')' || c = ']' || c = '\x7d' || c = '>'

/-- Tells whether a character is a quote. -/
def isQuote (c : Char) : Bool :=
  c = '\'' || c = '"' || c = '\x60'

/-- What is open after a character, unless it closes what is not open. -/
def step (c : Char) : List Opening → Option (List Opening)
  | .escape :: o => some o
  | .quote q :: o => some (if c = '\\' then .escape :: .quote q :: o else if c = q then o
      else .quote q :: o)
  | o =>
    if isQuote c then some (.quote c :: o)
    else if isClosing c then (if o.head? = some (.bracket c) then some o.tail else none)
    else some ((closing? c).toList.map .bracket ++ o)

/-- The pieces of a text between the separators that stand where nothing is open; nothing if
something is left open or closed that is not open. -/
def pieces? (sep : Char) : List Opening → List Char → Option (List (List Char))
  | [], [] => some [[]]
  | _ :: _, [] => none
  | o, c :: cs =>
    if o = [] ∧ c = sep then (pieces? sep [] cs).map ([] :: ·)
    else (step c o).bind fun o => (pieces? sep o cs).map (List.modifyHead (c :: ·))

/-- Tells that a character opens and closes nothing. -/
structure IsPlain (c : Char) : Prop where
  quote : isQuote c = false
  closing : isClosing c = false
  opening : closing? c = none

instance (c : Char) : Decidable (IsPlain c) :=
  decidable_of_iff (isQuote c = false ∧ isClosing c = false ∧ closing? c = none)
    ⟨fun h => ⟨h.1, h.2.1, h.2.2⟩, fun h => ⟨h.quote, h.closing, h.opening⟩⟩

variable {sep sep' c b : Char} {o o' : List Opening} {cs ds p q : List Char}
  {ps qs : List (List Char)}

lemma step_of_isPlain (h : IsPlain c) : step c [] = some [] := by
  simp [step, h.quote, h.closing, h.opening]

lemma step_bracket_of_isPlain (h : IsPlain c) : step c [.bracket b] = some [.bracket b] := by
  simp [step, h.quote, h.closing, h.opening]

/-- Inside a bracket a character does what it does by itself. -/
lemma step_append (h : step c o = some o') :
    step c (o ++ [.bracket b]) = some (o' ++ [.bracket b]) := by
  rcases o with _ | ⟨closing | mark | _, o⟩
  · simp only [step] at h ⊢
    split at h
    next hquote =>
      cases h
      simp [hquote]
    next hquote =>
      split at h
      next => cases h
      next hclosing =>
        cases h
        simp [hquote, hclosing]
  · simp only [step, List.cons_append] at h ⊢
    split at h
    next hquote =>
      cases h
      simp [hquote]
    next hquote =>
      split at h
      next hclosing =>
        split at h
        next hhead =>
          cases h
          simp_all
        next => cases h
      next hclosing =>
        cases h
        simp [hquote, hclosing]
  · simp only [step, List.cons_append] at h ⊢
    cases h
    split
    · rfl
    · split <;> rfl
  · simp only [step] at h
    cases h
    rfl

/-! ## Pieces -/

lemma map_modifyHead_nil (x : Option (List (List Char))) :
    x.map (List.modifyHead ([] ++ ·)) = x := by
  have hid : List.modifyHead (([] : List Char) ++ ·) = id := funext fun x => by cases x <;> rfl
  rw [hid, Option.map_id]
  rfl

lemma map_modifyHead_append (cs ds : List Char) (x : Option (List (List Char))) :
    (x.map (List.modifyHead (ds ++ ·))).map (List.modifyHead (cs ++ ·)) =
      x.map (List.modifyHead (cs ++ ds ++ ·)) := by
  have hcomp : ((cs ++ ·) ∘ (ds ++ ·) : List Char → List Char) = (cs ++ ds ++ ·) :=
    funext fun _ => (List.append_assoc ..).symm
  rw [Option.map_map, ← hcomp]
  exact congrArg (Option.map · x) (funext fun _ => List.modifyHead_modifyHead ..)

lemma pieces?_cons_of_step (hsep : ¬(o = [] ∧ c = sep)) (h : step c o = some o') (cs : List Char) :
    pieces? sep o (c :: cs) = (pieces? sep o' cs).map (List.modifyHead (c :: ·)) := by
  rw [pieces?, if_neg hsep, h, Option.bind_some]

lemma pieces?_cons_self (cs : List Char) :
    pieces? sep [] (sep :: cs) = (pieces? sep [] cs).map ([] :: ·) := by
  rw [pieces?, if_pos ⟨rfl, rfl⟩]

/-- There is always a last piece. -/
lemma exists_append_of_pieces? (h : pieces? sep o cs = some ps) :
    ∃ front last, ps = front ++ [last] := by
  refine ⟨_, _, (List.dropLast_concat_getLast (l := ps) ?_).symm⟩
  rintro rfl
  induction cs generalizing o with
  | nil => cases o <;> simp [pieces?] at h
  | cons c cs ih =>
    rw [pieces?] at h
    split at h
    · obtain ⟨_, _, he⟩ := Option.map_eq_some_iff.1 h
      cases he
    · obtain ⟨o', -, h⟩ := Option.bind_eq_some_iff.1 h
      obtain ⟨ps, hps, he⟩ := Option.map_eq_some_iff.1 h
      rw [List.modifyHead_eq_nil_iff.1 he] at hps
      exact ih hps

/-- Of texts that are put together, the last piece of the one and the first piece of the other
become one. -/
theorem pieces?_append (h : pieces? sep o cs = some (ps ++ [p]))
    (h' : pieces? sep [] ds = some (q :: qs)) :
    pieces? sep o (cs ++ ds) = some (ps ++ (p ++ q) :: qs) := by
  induction cs generalizing o ps p with
  | nil =>
    cases o with
    | nil =>
      obtain ⟨rfl, he⟩ :=
        List.append_eq_singleton_iff.1 (Option.some.inj h).symm |>.resolve_right (by simp)
      obtain rfl := List.singleton_inj.1 he
      exact h'
    | cons => cases h
  | cons c cs ih =>
    rw [List.cons_append]
    rw [pieces?] at h ⊢
    split at h
    next hsep =>
      rw [if_pos hsep]
      obtain ⟨qs', hqs', he⟩ := Option.map_eq_some_iff.1 h
      obtain ⟨front, last, rfl⟩ := exists_append_of_pieces? hqs'
      have hends : [] :: front ++ [last] = ps ++ [p] := he
      obtain ⟨rfl, hlast⟩ := List.append_inj' hends rfl
      obtain rfl := List.singleton_inj.1 hlast
      rw [ih hqs']
      rfl
    next hsep =>
      rw [if_neg hsep]
      obtain ⟨o', ho', h⟩ := Option.bind_eq_some_iff.1 h
      obtain ⟨qs', hqs', he⟩ := Option.map_eq_some_iff.1 h
      obtain ⟨front, last, rfl⟩ := exists_append_of_pieces? hqs'
      rw [ho', Option.bind_some, ih hqs']
      cases front with
      | nil =>
        obtain ⟨rfl, he⟩ := List.append_eq_singleton_iff.1 he.symm |>.resolve_right (by simp)
        obtain rfl := List.singleton_inj.1 he
        rfl
      | cons first front =>
        have hends : (c :: first) :: front ++ [last] = ps ++ [p] := he
        obtain ⟨rfl, hlast⟩ := List.append_inj' hends rfl
        obtain rfl := List.singleton_inj.1 hlast
        rfl

/-- What is in a bracket is no end of a piece. -/
theorem pieces?_inside (hsep : IsPlain sep) (h : pieces? sep o cs = some ps) (sep' : Char)
    (ds : List Char) :
    pieces? sep' (o ++ [.bracket b]) (cs ++ ds) =
    (pieces? sep' [.bracket b] ds).map (List.modifyHead (cs ++ ·)) := by
  induction cs generalizing o ps with
  | nil =>
    cases o with
    | nil => exact (map_modifyHead_nil _).symm
    | cons => cases h
  | cons c cs ih =>
    have hopen {x : List Opening} : ¬(x ++ [.bracket b] = [] ∧ c = sep') := by simp
    rw [pieces?] at h
    split at h
    next hstart =>
      obtain ⟨rfl, rfl⟩ := hstart
      obtain ⟨ps', hps', -⟩ := Option.map_eq_some_iff.1 h
      have hrest := ih hps'
      rw [List.nil_append] at hrest
      rw [List.cons_append, List.nil_append,
        pieces?_cons_of_step (by simp) (step_bracket_of_isPlain hsep), hrest]
      exact map_modifyHead_append [c] cs _
    next =>
      obtain ⟨o', ho', h⟩ := Option.bind_eq_some_iff.1 h
      obtain ⟨ps', hps', -⟩ := Option.map_eq_some_iff.1 h
      rw [List.cons_append, pieces?_cons_of_step hopen (step_append ho'), ih hps']
      exact map_modifyHead_append [c] cs _

/-- Whatever it is cut at, a text can be cut if it closes what it opens and nothing else. -/
lemma exists_pieces? (hsep : IsPlain sep) (hsep' : IsPlain sep') (h : pieces? sep o cs = some ps) :
    ∃ qs, pieces? sep' o cs = some qs := by
  induction cs generalizing o ps with
  | nil =>
    cases o with
    | nil => exact ⟨_, rfl⟩
    | cons => cases h
  | cons c cs ih =>
    have hstep : ∃ o' ps', step c o = some o' ∧ pieces? sep o' cs = some ps' := by
      rw [pieces?] at h
      split at h
      next hstart =>
        obtain ⟨rfl, rfl⟩ := hstart
        obtain ⟨ps', hps', -⟩ := Option.map_eq_some_iff.1 h
        exact ⟨_, ps', step_of_isPlain hsep, hps'⟩
      next =>
        obtain ⟨o', ho', h⟩ := Option.bind_eq_some_iff.1 h
        obtain ⟨ps', hps', -⟩ := Option.map_eq_some_iff.1 h
        exact ⟨o', ps', ho', hps'⟩
    obtain ⟨o', ps', ho', hps'⟩ := hstep
    obtain ⟨qs, hqs⟩ := ih hps'
    by_cases hstart : o = [] ∧ c = sep'
    · obtain ⟨rfl, rfl⟩ := hstart
      obtain rfl := Option.some.inj ((step_of_isPlain hsep').symm.trans ho')
      exact ⟨_, by rw [pieces?_cons_self, hqs, Option.map_some]⟩
    · exact ⟨_, by rw [pieces?_cons_of_step hstart ho', hqs, Option.map_some]⟩

/-! ## Texts of one piece -/

/-- Tells that a text closes what it opens and nothing else, and holds a separator only where
something is open. -/
def IsPiece (sep : Char) (cs : List Char) : Prop :=
  pieces? sep [] cs = some [cs]

instance (sep : Char) (cs : List Char) : Decidable (IsPiece sep cs) :=
  inferInstanceAs (Decidable (_ = _))

lemma isPiece_nil (sep : Char) : IsPiece sep [] := rfl

lemma IsPiece.append (h : IsPiece sep cs) (h' : IsPiece sep ds) : IsPiece sep (cs ++ ds) := by
  have hfirst : pieces? sep [] cs = some ([] ++ [cs]) := h
  exact pieces?_append hfirst h'

lemma isPiece_singleton (h : IsPlain c) (hsep : c ≠ sep) : IsPiece sep [c] := by
  rw [IsPiece, pieces?_cons_of_step (by simpa using hsep) (step_of_isPlain h)]
  rfl

/-- Characters that open and close nothing make a piece. -/
lemma isPiece_of_isPlain (h : ∀ c ∈ cs, IsPlain c ∧ c ≠ sep) : IsPiece sep cs := by
  induction cs with
  | nil => exact isPiece_nil sep
  | cons c cs ih =>
    rw [List.forall_mem_cons] at h
    exact (isPiece_singleton h.1.1 h.1.2).append (ih h.2)

lemma spec_of_closing? (h : closing? c = some b) :
    isQuote c = false ∧ isClosing c = false ∧ isQuote b = false ∧ isClosing b = true := by
  unfold closing? at h
  split at h
  next hc => subst hc; cases h; decide
  next =>
    split at h
    next hc => subst hc; cases h; decide
    next =>
      split at h
      next hc => subst hc; cases h; decide
      next =>
        split at h
        next hc => subst hc; cases h; decide
        next => cases h

/-- What is put in brackets is a piece. -/
lemma isPiece_bracket (hsep : IsPlain sep) (h : pieces? sep [] cs = some ps)
    (hc : closing? c = some b) (hne : c ≠ sep') : IsPiece sep' (c :: (cs ++ [b])) := by
  obtain ⟨hquote, hclosing, hquote', hclosing'⟩ := spec_of_closing? hc
  have hopen : step c [] = some [.bracket b] := by simp [step, hquote, hclosing, hc]
  have hclose : step b [.bracket b] = some [] := by simp [step, hquote', hclosing']
  have hlast : pieces? sep' [.bracket b] [b] = some [[b]] := by
    rw [pieces?_cons_of_step (by simp) hclose]
    rfl
  have hinside := pieces?_inside (b := b) hsep h sep' [b]
  rw [List.nil_append, hlast] at hinside
  rw [IsPiece, pieces?_cons_of_step (by simpa using hne) hopen, hinside]
  rfl

/-- The characters of a literal are no end of a piece. -/
lemma pieces?_body (sep : Char) (cs ds : List Char) :
    pieces? sep [.quote '\''] (Literal.body cs ++ ds) =
    (pieces? sep [.quote '\''] ds).map (List.modifyHead (Literal.body cs ++ ·)) := by
  have hescape (c : Char) (es : List Char) : pieces? sep [.quote '\''] (Literal.escape c ++ es) =
      (pieces? sep [.quote '\''] es).map (List.modifyHead (Literal.escape c ++ ·)) := by
    rcases Literal.cases_escape c with ⟨d, h, -⟩ | ⟨h, hquote, hslash, -⟩
    · have hescape : step '\\' [.quote '\''] = some [.escape, .quote '\''] := rfl
      rw [h, List.cons_append, List.singleton_append, pieces?_cons_of_step (by simp) hescape,
        pieces?_cons_of_step (by simp) rfl]
      exact map_modifyHead_append ['\\'] [d] _
    · rw [h]
      exact pieces?_cons_of_step (by simp) (by simp [step, hquote, hslash]) es
  induction cs with
  | nil => exact (map_modifyHead_nil _).symm
  | cons c cs ih =>
    rw [show Literal.body (c :: cs) = Literal.escape c ++ Literal.body cs from rfl,
      List.append_assoc, hescape, ih]
    exact map_modifyHead_append _ _ _

/-- A literal is a piece. -/
lemma isPiece_quote (s : String) (hsep : sep ≠ '\'') : IsPiece sep (Literal.quote s).toList := by
  have hopen : step '\'' [] = some [.quote '\''] := rfl
  have hclose : step '\'' [.quote '\''] = some [] := rfl
  rw [Literal.quote, String.toList_ofList, IsPiece, List.cons_append,
    pieces?_cons_of_step (by simpa using Ne.symm hsep) hopen, pieces?_body,
    pieces?_cons_of_step (by simp) hclose]
  rfl

/-! ## Types -/

/-- The alternatives of a type. -/
def alternatives? (cs : List Char) : Option (List (List Char)) :=
  (pieces? '|' [] cs).map (·.map trim)

/-- The text of null. -/
def nullText : List Char := "null".toList

/-- The text of an array of what another text stands for. -/
def arrayText (item : List Char) : List Char := "Array".toList ++ '<' :: (item ++ ['>'])

/-- The text of a record with some inside. -/
def recordText (inside : List Char) : List Char := '\x7b' :: (inside ++ ['\x7d'])

/-- The name and the type of a member of a record. -/
def member? (p : List Char) : Option (String × List Char) :=
  (cutAt? ':' p).bind fun cut =>
    if IsName (String.ofList (trim cut.1)) then some (String.ofList (trim cut.1), cut.2) else none

/-- The members of a record by its inside. The last of them may end with a semicolon. -/
def members? (inside : List Char) : Option (List (String × List Char)) :=
  (pieces? ';' [] inside).bind fun ps =>
    (if ps.getLast?.all (fun p => trim p = []) then ps.dropLast else ps).mapM member?

/-- Tells that an alternative is neither null nor an array nor a record. -/
structure IsOther (p : List Char) : Prop where
  nonempty : p ≠ []
  ne_null : p ≠ nullText
  ne_array {item : List Char} (h : IsPiece ';' item) : p ≠ arrayText item
  ne_record {inside : List Char} {ms : List (String × List Char)} (h : members? inside = some ms) :
    p ≠ recordText inside

mutual

/-- Tells that a text is a type: it has alternatives, and none of them is blank, but a bar may stand
in front. -/
inductive IsType : List Char → Prop where
  | intro {cs : List Char} {ps : List (List Char)} (hwhole : IsPiece ';' cs)
    (h : alternatives? cs = some ps) (hsome : ps ≠ [[]]) (hblank : [] ∉ ps.tail)
    (hps : ∀ p ∈ ps, IsAlternative p) : IsType cs

/-- Tells that an alternative is made of types: the item of an array, and the members of a
record. -/
inductive IsAlternative : List Char → Prop where
  | intro {p : List Char} (harray : ∀ item, p = arrayText item → IsPiece ';' item → IsType item)
    (hrecord : ∀ inside ms, p = recordText inside →
      members? inside = some ms → ∀ m ∈ ms, IsType m.2) : IsAlternative p

end

mutual

/-- Tells that a value is one of a type: one of its alternatives admits it. -/
inductive Inhabits (M : List Char → Json → Prop) : List Char → Json → Prop where
  | intro {cs p : List Char} {ps : List (List Char)} {v : Json} (h : alternatives? cs = some ps)
    (hp : p ∈ ps) (hv : Admits M p v) : Inhabits M cs v

/-- Tells that an alternative admits a value, where `M` tells it of those that are neither null nor
an array nor a record. A record may have more members than it needs. -/
inductive Admits (M : List Char → Json → Prop) : List Char → Json → Prop where
  | null : Admits M nullText .null
  | array {item : List Char} {vs : List Json} (hitem : IsPiece ';' item)
    (hvs : ∀ v ∈ vs, Inhabits M item v) : Admits M (arrayText item) (.list vs)
  | record {inside : List Char} {ms : List (String × List Char)} {v : Json}
    (hms : members? inside = some ms) (hv : ∃ vs, v = .record vs) (value : String → Json)
      (hvalue : ∀ m ∈ ms, v.member? m.1 = some (value m.1))
    (hvs : ∀ m ∈ ms, Inhabits M m.2 (value m.1)) : Admits M (recordText inside) v
  | other {p : List Char} {v : Json} (hother : IsOther p) (hv : M p v) : Admits M p v

end

/-! ## Alternatives -/

lemma isPlain_bar : IsPlain '|' := by decide

lemma isPlain_semicolon : IsPlain ';' := by decide

lemma alternatives?_of_isPiece (h : IsPiece '|' cs) (htrim : trim cs = cs) :
    alternatives? cs = some [cs] := by
  rw [alternatives?, h, Option.map_some, List.map_singleton, htrim]

/-- The alternatives of a choice are those of both sides. -/
lemma alternatives?_or (h : alternatives? cs = some ps) (h' : alternatives? ds = some qs) :
    alternatives? (cs ++ (" | ".toList ++ ds)) = some (ps ++ qs) := by
  obtain ⟨as, has, rfl⟩ := Option.map_eq_some_iff.1 h
  obtain ⟨bs, hbs, rfl⟩ := Option.map_eq_some_iff.1 h'
  obtain ⟨front, last, rfl⟩ := exists_append_of_pieces? has
  obtain ⟨first, rest, rfl⟩ : ∃ first rest, bs = first :: rest := by
    refine List.exists_cons_of_ne_nil ?_
    rintro rfl
    obtain ⟨_, _, he⟩ := exists_append_of_pieces? hbs
    simp at he
  have hbar : pieces? '|' [] " | ".toList = some ([[' ']] ++ [[' ']]) := by decide
  have hright : pieces? '|' [] (" | ".toList ++ ds) = some ([' '] :: (' ' :: first) :: rest) :=
    pieces?_append hbar hbs
  have hspace : isBlank ' ' = true := by decide
  rw [alternatives?, pieces?_append has hright, Option.map_some]
  simp only [List.map_append, List.map_cons, List.map_nil, List.append_assoc, List.singleton_append,
    trim_append_of_isBlank hspace, trim_cons_of_isBlank hspace]

lemma ne_nil_of_alternatives? (h : alternatives? cs = some ps) : ps ≠ [] := by
  obtain ⟨as, has, rfl⟩ := Option.map_eq_some_iff.1 h
  obtain ⟨front, last, rfl⟩ := exists_append_of_pieces? has
  simp

/-- A choice is a type if both sides are, the second without a bar in front. -/
lemma IsType.or (h : IsType cs) (h' : IsType ds) (hqs : alternatives? ds = some qs)
    (hblank : [] ∉ qs) : IsType (cs ++ (" | ".toList ++ ds)) := by
  cases h with
  | intro hwhole hps hsome hblank' halternative =>
    cases h' with
    | intro hwhole' hqs' _ _ halternative' =>
      obtain rfl := Option.some.inj (hqs.symm.trans hqs')
      have hbar : IsPiece ';' " | ".toList := by decide
      refine .intro (hwhole.append (hbar.append hwhole')) (alternatives?_or hps hqs) ?_ ?_ ?_
      · intro he
        have hlength := congrArg List.length he
        have hleft := List.length_pos_of_ne_nil (ne_nil_of_alternatives? hps)
        have hright := List.length_pos_of_ne_nil (ne_nil_of_alternatives? hqs)
        rw [List.length_append, List.length_singleton] at hlength
        omega
      · rw [List.tail_append_of_ne_nil (ne_nil_of_alternatives? hps), List.mem_append, not_or]
        exact ⟨hblank', hblank⟩
      · exact fun p hp => (List.mem_append.1 hp).elim (halternative p) (halternative' p)

variable {M : List Char → Json → Prop} {v : Json}

/-- What is blank is no type. -/
lemma not_isType_of_blank (h : alternatives? cs = some [[]]) : ¬IsType cs := by
  intro htype
  cases htype with
  | intro _ h' hsome => exact hsome (Option.some.inj (h'.symm.trans h))

/-- A record with a member that has no type is none. -/
lemma not_isType_of_member {inside : List Char} {ms : List (String × List Char)}
    {m : String × List Char} (h : alternatives? cs = some ps) (hp : recordText inside ∈ ps)
    (hms : members? inside = some ms) (hm : m ∈ ms) (hnot : ¬IsType m.2) : ¬IsType cs := by
  intro htype
  cases htype with
  | intro _ h' _ _ halternative =>
    obtain rfl := Option.some.inj (h.symm.trans h')
    cases halternative _ hp with
    | intro _ hrecord => exact hnot (hrecord _ _ rfl hms m hm)

lemma inhabits_iff (h : alternatives? cs = some ps) : Inhabits M cs v ↔ ∃ p ∈ ps, Admits M p v := by
  constructor
  · intro hv
    cases hv with
    | intro hps hp hv =>
      obtain rfl := Option.some.inj (h.symm.trans hps)
      exact ⟨_, hp, hv⟩
  · rintro ⟨p, hp, hv⟩
    exact .intro h hp hv

/-- The values of a choice are those of both sides. -/
theorem inhabits_or_iff (h : alternatives? cs = some ps) (h' : alternatives? ds = some qs) :
    Inhabits M (cs ++ (" | ".toList ++ ds)) v ↔ Inhabits M cs v ∨ Inhabits M ds v := by
  simp only [inhabits_iff (alternatives?_or h h'), inhabits_iff h, inhabits_iff h',
    List.mem_append, or_and_right, exists_or]

/-- A text of one alternative is a type if the alternative is made of types. -/
lemma IsAlternative.isType (h : IsAlternative cs) (hwhole : IsPiece ';' cs)
    (hcs : alternatives? cs = some [cs]) (hne : cs ≠ []) : IsType cs :=
  .intro hwhole hcs (by simpa using hne) (by simp) (by simpa using h)

lemma IsType.isPiece (h : IsType cs) : IsPiece ';' cs := by
  cases h with
  | intro hwhole => exact hwhole

/-- A text without angle brackets and braces is an alternative. -/
lemma isAlternative_of_not_mem (h : '<' ∉ cs) (h' : '\x7b' ∉ cs) : IsAlternative cs := by
  constructor
  · rintro item rfl -
    exact absurd (List.mem_append_right _ List.mem_cons_self) h
  · rintro inside ms rfl -
    exact absurd List.mem_cons_self h'

/-! ## Null -/

lemma alternatives?_null : alternatives? nullText = some [nullText] := by decide

lemma isType_null : IsType nullText :=
  (isAlternative_of_not_mem (by decide) (by decide)).isType
    (by decide) alternatives?_null (by decide)

lemma inhabits_null_iff : Inhabits M nullText v ↔ v = .null := by
  rw [inhabits_iff alternatives?_null]
  simp only [List.mem_singleton, exists_eq_left]
  constructor
  · intro hv
    generalize hp : nullText = p at hv
    cases hv with
    | null => rfl
    | array => cases hp
    | record => cases hp
    | other hother => exact absurd hp.symm hother.ne_null
  · rintro rfl
    exact .null

/-- A bar may stand in front of null. -/
lemma isType_bar_null : IsType (" | ".toList ++ nullText) := by
  have hps : alternatives? (" | ".toList ++ nullText) = some [[], nullText] := by decide
  refine .intro (.append (by decide) isType_null.isPiece) hps (by simp) (by decide) fun p hp => ?_
  rcases List.mem_pair.1 hp with rfl | rfl
  · exact isAlternative_of_not_mem (by simp) (by simp)
  · exact isAlternative_of_not_mem (by decide) (by decide)

/-! ## Arrays -/

lemma arrayText_inj {item item' : List Char} (h : arrayText item = arrayText item') :
    item = item' :=
  (List.append_inj' (List.cons.inj (List.append_cancel_left h)).2 rfl).1

lemma isPiece_arrayText (h : IsPiece ';' cs) (hsep : sep ∉ "Array<".toList) :
    IsPiece sep (arrayText cs) := by
  have hplain : "Array".toList.all fun c => IsPlain c := by decide
  have hne : ∀ c ∈ "Array<".toList, c ≠ sep := fun c hc he => hsep (he ▸ hc)
  refine (isPiece_of_isPlain fun c hc => ?_).append
    (isPiece_bracket isPlain_semicolon h rfl (hne '<' (by decide)))
  exact ⟨of_decide_eq_true (List.all_eq_true.1 hplain c hc), hne c (List.mem_append_left ['<'] hc)⟩

lemma IsPiece.array (h : IsPiece ';' cs) : IsPiece ';' (arrayText cs) :=
  isPiece_arrayText h (by decide)

lemma alternatives?_arrayText (h : IsPiece ';' cs) :
    alternatives? (arrayText cs) = some [arrayText cs] := by
  refine alternatives?_of_isPiece (isPiece_arrayText h (by decide)) (trim_eq_self ?_ ?_)
  · intro c hc
    cases hc
    decide
  · intro c hc
    have htext : arrayText cs = ("Array".toList ++ '<' :: cs) ++ ['>'] :=
      (List.append_assoc _ ('<' :: cs) ['>']).symm
    rw [htext, List.getLast?_append] at hc
    cases hc
    decide

/-- An array of a type is a type. -/
lemma IsType.array (h : IsType cs) : IsType (arrayText cs) := by
  have hne : arrayText cs ≠ [] := List.append_ne_nil_of_right_ne_nil _ (List.cons_ne_nil _ _)
  refine IsAlternative.isType (.intro ?_ ?_) h.isPiece.array (alternatives?_arrayText h.isPiece) hne
  · rintro item he -
    rwa [← arrayText_inj he]
  · intro inside ms he
    cases he

/-- The values of an array are the lists of values of its items. -/
theorem inhabits_array_iff (h : IsPiece ';' cs) :
    Inhabits M (arrayText cs) v ↔ ∃ vs, v = .list vs ∧ ∀ x ∈ vs, Inhabits M cs x := by
  rw [inhabits_iff (alternatives?_arrayText h)]
  simp only [List.mem_singleton, exists_eq_left]
  constructor
  · intro hv
    generalize hp : arrayText cs = p at hv
    cases hv with
    | null => cases hp
    | array hitem hvs =>
      obtain rfl := arrayText_inj hp
      exact ⟨_, rfl, hvs⟩
    | record => cases hp
    | other hother => exact absurd hp.symm (hother.ne_array h)
  · rintro ⟨vs, rfl, hvs⟩
    exact .array h hvs

/-! ## Records -/

lemma recordText_inj {inside inside' : List Char} (h : recordText inside = recordText inside') :
    inside = inside' :=
  (List.append_inj' (List.cons.inj h).2 rfl).1

lemma isPiece_recordText (h : pieces? ';' [] cs = some ps) (hsep : sep ≠ '\x7b') :
    IsPiece sep (recordText cs) :=
  isPiece_bracket isPlain_semicolon h rfl hsep.symm

lemma alternatives?_recordText (h : pieces? ';' [] cs = some ps) :
    alternatives? (recordText cs) = some [recordText cs] := by
  refine alternatives?_of_isPiece (isPiece_recordText h (by decide)) (trim_eq_self ?_ ?_)
  · intro c hc
    cases hc
    decide
  · intro c hc
    rw [recordText, ← List.cons_append, List.getLast?_append] at hc
    cases hc
    decide

/-- A record is a type if the types of its members are. -/
theorem isType_recordText {ms : List (String × List Char)}
    (h : pieces? ';' [] cs = some (ps ++ [p])) (hlast : trim p = [])
    (hms : ps.mapM member? = some ms) (htypes : ∀ m ∈ ms, IsType m.2) : IsType (recordText cs) := by
  have hmembers : members? cs = some ms := by
    rw [members?, h, Option.bind_some, if_pos (by simp [hlast]), List.dropLast_concat, hms]
  refine IsAlternative.isType (.intro ?_ ?_) (isPiece_recordText h (by decide))
    (alternatives?_recordText h) (by simp [recordText])
  · intro item he
    cases he
  · intro inside ms' he hms'
    obtain rfl := recordText_inj he
    obtain rfl := Option.some.inj (hmembers.symm.trans hms')
    exact htypes

/-- Characters of names open and close nothing, part nothing and are not blank. -/
lemma spec_of_isNameRest (h : Token.isNameRest c) :
    IsPlain c ∧ isBlank c = false ∧ c ∉ [':', '|', ';'] := by
  have hall : ∀ n < 128, Token.isNameRest (Char.ofNat n) →
      IsPlain (Char.ofNat n) ∧ isBlank (Char.ofNat n) = false ∧
      Char.ofNat n ∉ [':', '|', ';'] := by decide
  exact forall_ascii (p :=
    fun c => Token.isNameRest c → IsPlain c ∧ isBlank c = false ∧ c ∉ [':', '|', ';']) hall
    (toNat_lt_of_isNameRest h) h

lemma trim_of_isName {name : String} (h : IsName name) : trim name.toList = name.toList :=
  trim_eq_self (fun c hc => (spec_of_isNameRest (h.isNameRest c (List.mem_of_mem_head? hc))).2.1)
    fun c hc => (spec_of_isNameRest (h.isNameRest c (List.mem_of_mem_getLast? hc))).2.1

/-- A member is read by its name and what follows the colon. -/
lemma member?_eq (hblank : ∀ c ∈ ds, isBlank c = true) {name : String} (hname : IsName name)
    (type : List Char) : member? (ds ++ (name.toList ++ ':' :: type)) = some (name, type) := by
  have hcolon : ':' ∉ ds ++ name.toList := by
    rw [List.mem_append, not_or]
    exact ⟨fun hmem => absurd (hblank _ hmem) (by decide),
      fun hmem => absurd (spec_of_isNameRest (hname.isNameRest _ hmem)).2.2 (by decide)⟩
  have htrim : String.ofList (trim (ds ++ name.toList)) = name := by
    rw [trim_append_of_forall_isBlank hblank, trim_of_isName hname, String.ofList_toList]
  rw [member?, ← List.append_assoc, cutAt?_append_cons hcolon, Option.bind_some,
    htrim, if_pos hname]

lemma alternatives?_cons_blank (cs : List Char) : alternatives? (' ' :: cs) = alternatives? cs := by
  have hblank : step ' ' [] = some [] := rfl
  rw [alternatives?, pieces?_cons_of_step (by simp) hblank, Option.map_map]
  refine Option.map_congr fun ps hps => ?_
  obtain ⟨p, rest, rfl⟩ : ∃ p rest, ps = p :: rest := by
    obtain ⟨front, last, rfl⟩ := exists_append_of_pieces? hps
    exact List.exists_cons_of_ne_nil (by simp)
  exact congrArg (· :: rest.map trim) (trim_cons_of_isBlank rfl p)

/-- A type may stand after a blank. -/
lemma IsType.cons_blank (h : IsType cs) : IsType (' ' :: cs) := by
  cases h with
  | intro hwhole h hsome hblank hps =>
    have hspace : IsPiece ';' [' '] := by decide
    exact .intro (hspace.append hwhole) ((alternatives?_cons_blank cs).trans h) hsome hblank hps

/-! ## Names and literals -/

lemma isPiece_of_isName {name : String} (h : IsName name) (hsep : sep ∈ [':', '|', ';']) :
    IsPiece sep name.toList := by
  refine isPiece_of_isPlain fun c hc => ?_
  obtain ⟨hplain, -, hnot⟩ := spec_of_isNameRest (h.isNameRest c hc)
  exact ⟨hplain, fun he => hnot (he ▸ hsep)⟩

lemma isType_of_isName {name : String} (h : IsName name) : IsType name.toList := by
  have hplain : ∀ c ∈ name.toList, IsPlain c :=
    fun c hc => (spec_of_isNameRest (h.isNameRest c hc)).1
  refine IsAlternative.isType (isAlternative_of_not_mem ?_ ?_) (isPiece_of_isName h (by decide))
    (alternatives?_of_isPiece (isPiece_of_isName h (by decide)) (trim_of_isName h)) ?_
  · exact fun hmem => absurd (hplain _ hmem) (by decide)
  · exact fun hmem => absurd (hplain _ hmem) (by decide)
  · obtain ⟨c, cs, hname, -⟩ := h
    simp [hname]

lemma alternatives?_quote (s : String) :
    alternatives? (Literal.quote s).toList = some [(Literal.quote s).toList] := by
  refine alternatives?_of_isPiece (isPiece_quote s (by decide)) (trim_eq_self ?_ ?_)
  · intro c hc
    rw [Literal.quote, String.toList_ofList] at hc
    cases hc
    decide
  · intro c hc
    rw [Literal.quote, String.toList_ofList, List.getLast?_append] at hc
    cases hc
    decide

lemma isType_quote (s : String) : IsType (Literal.quote s).toList := by
  have htext : (Literal.quote s).toList = '\'' :: Literal.body s.toList ++ ['\''] :=
    String.toList_ofList
  refine IsAlternative.isType (.intro ?_ ?_) (isPiece_quote s (by decide)) (alternatives?_quote s)
    (by simp [htext])
  · intro item he
    rw [htext] at he
    cases he
  · intro inside ms he
    rw [htext] at he
    cases he

/-! ## Several types -/

lemma exists_alternatives? (h : IsPiece ';' cs) : ∃ ps, alternatives? cs = some ps := by
  obtain ⟨ps, hps⟩ := exists_pieces? isPlain_semicolon isPlain_bar h
  exact ⟨_, by rw [alternatives?, hps, Option.map_some]⟩

lemma joinWith_cons_cons (s t : String) (ts : List String) :
    (joinWith " | " (s :: t :: ts)).toList =
    s.toList ++ (" | ".toList ++ (joinWith " | " (t :: ts)).toList) := by
  rw [joinWith, String.toList_append, String.toList_append, List.append_assoc]
  exact List.cons_ne_nil t ts

lemma isPiece_joinWith {ts : List String} (h : ∀ t ∈ ts, IsPiece ';' t.toList) :
    IsPiece ';' (joinWith " | " ts).toList := by
  induction ts with
  | nil => exact isPiece_nil ';'
  | cons t ts ih =>
    rw [List.forall_mem_cons] at h
    cases ts with
    | nil => exact h.1
    | cons u ts =>
      have hbar : IsPiece ';' " | ".toList := by decide
      rw [joinWith_cons_cons]
      exact h.1.append (hbar.append (ih h.2))

lemma alternatives?_joinWith {ts : List String} (hne : ts ≠ [])
    (h : ∀ t ∈ ts, alternatives? t.toList = some [t.toList]) :
    alternatives? (joinWith " | " ts).toList = some (ts.map String.toList) := by
  induction ts with
  | nil => exact absurd rfl hne
  | cons t ts ih =>
    rw [List.forall_mem_cons] at h
    cases ts with
    | nil => exact h.1
    | cons u ts =>
      rw [joinWith_cons_cons]
      exact alternatives?_or h.1 (ih (by simp) h.2)

/-- Several types of one alternative are a type. -/
theorem isType_joinWith {ts : List String} (hne : ts ≠ [])
    (h : ∀ t ∈ ts, IsType t.toList ∧ alternatives? t.toList = some [t.toList]) :
    IsType (joinWith " | " ts).toList := by
  induction ts with
  | nil => exact absurd rfl hne
  | cons t ts ih =>
    rw [List.forall_mem_cons] at h
    cases ts with
    | nil => exact h.1.1
    | cons u ts =>
      rw [joinWith_cons_cons]
      refine h.1.1.or (ih (by simp) h.2)
        (alternatives?_joinWith (by simp) fun t ht => (h.2 t ht).2) ?_
      intro hblank
      obtain ⟨t, ht, he⟩ := List.mem_map.1 hblank
      obtain ⟨htype, hone⟩ := h.2 t ht
      rw [he] at htype hone
      cases htype with
      | intro _ hps hsome => exact hsome (Option.some.inj (hps.symm.trans hone))

end OperationGate.TypeText
