import Mathlib
import OperationGate.Glob
import OperationGate.Proofs.Text.Parts

/-!
# The texts of a pattern as written

What a pattern stands for, said of its text from left to right: `Glob.Takes` says which texts the
token at the front may stand for, `Glob.Sequence` goes on token by token, and `Glob.Language` takes
choices between braces with it. A pattern is not read just if a brace in it is left open
(`Glob.LeftOpen`).

Patterns are read in two passes: characters make pieces, and pieces make tokens, where braces and
commas are looked for among the pieces. Neither pass sees the characters that the other puts
together, and yet nothing is lost: no piece of more than one character holds a brace or a comma, so
a text is cut at them before or after it is read, with one result (`GlobPiece.ofChars_append_cons`).
Main statement: `Glob.spec_ofString?`.
-/

namespace OperationGate

namespace Glob

/-! ## What is written -/

/-- Tells that a text may stand for the token at the front of a pattern, after which the pattern
goes on. -/
inductive Takes : List Char → List Char → List Char → Prop where
  /-- Two stars and a slash: nothing. -/
  | nowhere (p : List Char) : Takes ('*' :: '*' :: '/' :: p) [] p
  /-- Two stars and a slash: any text that ends in a slash. -/
  | directories (v p : List Char) : Takes ('*' :: '*' :: '/' :: p) (v ++ ['/']) p
  /-- Any other two stars: any text. -/
  | text {p : List Char} (u : List Char) (h : p.head? ≠ some '/') : Takes ('*' :: '*' :: p) u p
  /-- Any other star: any text without a slash. -/
  | name {u p : List Char} (hu : '/' ∉ u) (h : p.head? ≠ some '*') : Takes ('*' :: p) u p
  /-- A question mark: one character other than a slash. -/
  | one {c : Char} (p : List Char) (h : c ≠ '/') : Takes ('?' :: p) [c] p
  /-- Any other character: itself. -/
  | itself {c : Char} (p : List Char) (h : c ≠ '*') (h' : c ≠ '?') : Takes (c :: p) [c] p

/-- The texts that a sequence of tokens stands for, braces and commas for themselves. -/
inductive Sequence : List Char → List Char → Prop where
  | nil : Sequence [] []
  | cons {p u q v : List Char} (h : Takes p u q) (hq : Sequence q v) : Sequence p (u ++ v)

/-- The texts that a pattern stands for. From a brace to the next closing one, the parts between
commas are a choice. -/
inductive Language : List Char → List Char → Prop where
  | nil : Language [] []
  | cons {p u q v : List Char} (hp : p.head? ≠ some '\x7b') (h : Takes p u q) (hq : Language q v) :
    Language p (u ++ v)
  | choice {body part u q v : List Char} (hbody : '\x7d' ∉ body) (hpart : part ∈ body.splitOn ',')
    (h : Sequence part u) (hq : Language q v) : Language ('\x7b' :: (body ++ '\x7d' :: q)) (u ++ v)

/-- Tells that a brace which opens a choice is never closed. -/
inductive LeftOpen : List Char → Prop where
  | here {p : List Char} (h : '\x7d' ∉ p) : LeftOpen ('\x7b' :: p)
  | afterChoice {body q : List Char} (hbody : '\x7d' ∉ body) (hq : LeftOpen q) :
    LeftOpen ('\x7b' :: (body ++ '\x7d' :: q))
  | later {c : Char} {p : List Char} (hc : c ≠ '\x7b') (h : LeftOpen p) : LeftOpen (c :: p)

end Glob

/-! ## Pieces -/

namespace GlobPiece

/-- Tells that characters write a piece, where others follow them. -/
inductive Writes : List Char → GlobPiece → List Char → Prop where
  | directories (q : List Char) : Writes ['*', '*', '/'] .directories q
  | text {q : List Char} (h : q.head? ≠ some '/') : Writes ['*', '*'] .text q
  | name {q : List Char} (h : q.head? ≠ some '*') : Writes ['*'] .name q
  | one (q : List Char) : Writes ['?'] .one q
  | exactly {c : Char} (q : List Char) (h : c ≠ '*') (h' : c ≠ '?') : Writes [c] (.exactly c) q

variable {a p q u : List Char} {piece : GlobPiece} {c : Char}

/-- The characters that write a piece are read as it. -/
lemma ofChars_append (h : Writes a piece q) : ofChars (a ++ q) = piece :: ofChars q := by
  cases h with
  | directories => rfl
  | text h => cases q <;> simp_all [ofChars]
  | name h => cases q <;> simp_all [ofChars]
  | one => rfl
  | exactly _ h h' =>
    rw [List.singleton_append]
    conv_lhs => unfold ofChars
    split <;> simp_all

/-- Every pattern starts with the characters of a piece, unless it is empty. -/
lemma exists_writes (hp : p ≠ []) : ∃ a piece q, p = a ++ q ∧ Writes a piece q := by
  obtain ⟨c, cs, rfl⟩ := List.exists_cons_of_ne_nil hp
  by_cases hstar : c = '*'
  · subst hstar
    by_cases hname : cs.head? = some '*'
    · obtain ⟨cs, rfl⟩ := List.head?_eq_some_iff.1 hname
      by_cases htext : cs.head? = some '/'
      · obtain ⟨cs, rfl⟩ := List.head?_eq_some_iff.1 htext
        exact ⟨_, _, cs, rfl, .directories cs⟩
      · exact ⟨_, _, cs, rfl, .text htext⟩
    · exact ⟨_, _, cs, rfl, .name hname⟩
  · by_cases hmark : c = '?'
    · subst hmark
      exact ⟨_, _, cs, rfl, .one cs⟩
    · exact ⟨[c], _, cs, rfl, .exactly cs hstar hmark⟩

/-- Induction on a pattern piece by piece. -/
@[elab_as_elim]
lemma inductionOn {motive : List Char → Prop} (p : List Char) (nil : motive [])
    (cons : ∀ a piece q, Writes a piece q → motive q → motive (a ++ q)) : motive p := by
  by_cases hp : p = []
  · subst hp
    exact nil
  · obtain ⟨a, piece, q, rfl, h⟩ := exists_writes hp
    have hshorter : q.length < (a ++ q).length := by
      cases h <;> simp only [List.length_append, List.length_cons, List.length_nil] <;> omega
    exact cons a piece q h (inductionOn q nil cons)
termination_by p.length

/-- Tells that a character is part of no piece but the one that stands for itself. -/
structure IsApart (c : Char) : Prop where
  star : c ≠ '*'
  mark : c ≠ '?'
  slash : c ≠ '/'

/-- What a character writes that is apart from others is not changed by what it is written after. -/
lemma Writes.append_cons (h : Writes a piece p) (hc : IsApart c) (q : List Char) :
    Writes a piece (p ++ c :: q) := by
  have hhead : ∀ {d : Char}, d ≠ c → p.head? ≠ some d → (p ++ c :: q).head? ≠ some d := by
    intro d hd hp
    cases p with
    | nil => simpa using Ne.symm hd
    | cons e p => simpa using hp
  cases h with
  | directories => exact .directories _
  | text h => exact .text (hhead hc.slash.symm h)
  | name h => exact .name (hhead hc.star.symm h)
  | one => exact .one _
  | exactly _ h h' => exact .exactly _ h h'

/-- A pattern is read before and after a character that is part of no other piece. -/
theorem ofChars_append_cons (hc : IsApart c) (p q : List Char) :
    ofChars (p ++ c :: q) = ofChars p ++ .exactly c :: ofChars q := by
  induction p using inductionOn with
  | nil => exact ofChars_append (.exactly q hc.star hc.mark)
  | cons a piece p h ih =>
    rw [List.append_assoc, ofChars_append (h.append_cons hc q), ih, ofChars_append h,
      List.cons_append]

/-- A character that is part of no other piece is read just if it is written. -/
lemma exactly_mem_ofChars_iff (hc : IsApart c) : .exactly c ∈ ofChars p ↔ c ∈ p := by
  induction p using inductionOn with
  | nil => simp [ofChars]
  | cons a piece p h ih =>
    rw [ofChars_append h, List.mem_cons, List.mem_append, ih]
    refine or_congr_left ?_
    cases h <;> simp [hc.star, hc.mark, hc.slash]

/-! ## Cutting -/

lemma cutAtClosing?_append (ps qs : List GlobPiece) (h : closing ∉ ps) :
    cutAtClosing? (ps ++ closing :: qs) = some (ps, qs) := by
  induction ps with
  | nil => simp [cutAtClosing?]
  | cons p ps ih =>
    rw [List.mem_cons, not_or] at h
    rw [List.cons_append, cutAtClosing?, if_neg (Ne.symm h.1), ih h.2]
    rfl

lemma cutAtClosing?_of_not_mem {ps : List GlobPiece} (h : closing ∉ ps) :
    cutAtClosing? ps = none := by
  induction ps with
  | nil => rfl
  | cons p ps ih =>
    rw [List.mem_cons, not_or] at h
    rw [cutAtClosing?, if_neg (Ne.symm h.1), ih h.2]
    rfl

/-- A pattern is split at commas before or after it is read. -/
lemma splitOn_ofChars (p : List Char) :
    (ofChars p).splitOn comma = (p.splitOn ',').map ofChars := by
  have hcomma : IsApart ',' := ⟨by decide, by decide, by decide⟩
  by_cases hmem : ',' ∈ p
  · obtain ⟨a, b, hp⟩ := List.append_of_mem hmem
    have hlength : p.length = a.length + (b.length + 1) := by rw [hp, List.length_append,
      List.length_cons]
    have hcut : (ofChars a ++ comma :: ofChars b).splitOn comma =
        (ofChars a).splitOn comma ++ (ofChars b).splitOn comma :=
      List.splitOn_append_cons_self ..
    rw [hp, ofChars_append_cons hcomma, ← comma, hcut, List.splitOn_append_cons_self,
      List.map_append, splitOn_ofChars a, splitOn_ofChars b]
  · have hpieces : comma ∉ ofChars p := fun h => hmem ((exactly_mem_ofChars_iff hcomma).1 h)
    have hwhole := List.splitOn_intercalate ',' (List.forall_mem_singleton.2 hmem)
      (List.cons_ne_nil p [])
    have hread := List.splitOn_intercalate comma (List.forall_mem_singleton.2 hpieces)
      (List.cons_ne_nil _ [])
    rw [List.intercalate_singleton] at hwhole hread
    rw [hwhole, hread]
    rfl
termination_by p.length
decreasing_by
  all_goals omega

/-! ## What pieces stand for -/

/-- The token at the front of a pattern stands for the texts of the piece that it writes. -/
lemma takes_append_iff (h : Writes a piece q) (hu : '\n' ∉ u) {r : List Char} :
    Glob.Takes (a ++ q) u r ↔ r = q ∧ piece.Denotes u := by
  constructor
  · intro ht
    cases h <;> cases ht <;> simp_all [Denotes]
  · rintro ⟨rfl, hdenotes⟩
    cases h with
    | directories =>
      rcases hdenotes with rfl | ⟨v, rfl, -⟩
      · exact .nowhere _
      · exact .directories v _
    | text h => exact .text u h
    | name h => exact .name hdenotes h
    | one =>
      obtain ⟨c, hc, rfl⟩ := hdenotes
      exact .one _ hc
    | exactly _ h h' =>
      obtain rfl := hdenotes
      exact .itself _ h h'

/-- A sequence of tokens stands for the texts that its pieces make one after the other. -/
lemma sequence_iff (hu : '\n' ∉ u) : Glob.Sequence p u ↔ InTurn Denotes (ofChars p) u := by
  induction p using inductionOn generalizing u with
  | nil =>
    constructor
    · intro hs
      cases hs with
      | nil => exact .nil
      | cons h _ => cases h
    · intro ht
      cases ht
      exact .nil
  | cons a piece q h ih =>
    rw [ofChars_append h]
    constructor
    · intro hs
      generalize hp : a ++ q = p at hs
      cases hs with
      | nil => cases h <;> cases hp
      | @cons _ v r w hv hw =>
        subst hp
        rw [List.mem_append, not_or] at hu
        obtain ⟨rfl, hdenotes⟩ := (takes_append_iff h hu.1).1 hv
        exact .cons hdenotes ((ih hu.2).1 hw)
    · intro ht
      cases ht with
      | @cons _ _ v w hv hw =>
        rw [List.mem_append, not_or] at hu
        exact .cons ((takes_append_iff h hu.1).2 ⟨rfl, hv⟩) ((ih hu.2).2 hw)

lemma isApart_opening : IsApart '\x7b' := ⟨by decide, by decide, by decide⟩

lemma isApart_closing : IsApart '\x7d' := ⟨by decide, by decide, by decide⟩

/-- An opening brace is read as itself. -/
lemma ofChars_opening (p : List Char) : ofChars ('\x7b' :: p) = opening :: ofChars p :=
  ofChars_append (.exactly p isApart_opening.star isApart_opening.mark)

end GlobPiece

/-! ## Tokens -/

namespace GlobToken

open GlobPiece

variable {a p q : List Char} {piece : GlobPiece}

/-- A brace opens a choice up to the next closing one. -/
lemma ofPieces?_choice {body : List Char} (hbody : '\x7d' ∉ body) (q : List Char) :
    ofPieces? (ofChars ('\x7b' :: (body ++ '\x7d' :: q))) =
      (ofPieces? (ofChars q)).map (.choice ((body.splitOn ',').map ofChars) :: ·) := by
  have hcut : cutAtClosing? (ofChars (body ++ '\x7d' :: q)) = some (ofChars body, ofChars q) := by
    rw [ofChars_append_cons isApart_closing]
    exact cutAtClosing?_append _ _ fun h => hbody ((exactly_mem_ofChars_iff isApart_closing).1 h)
  rw [ofChars_opening, ofPieces?, if_pos rfl, ← splitOn_ofChars]
  split
  next hnone => cases hnone.symm.trans hcut
  next hsome =>
    cases hsome.symm.trans hcut
    rfl

/-- A brace that is never closed leaves a pattern unread. -/
lemma ofPieces?_leftOpen (h : '\x7d' ∉ p) : ofPieces? (ofChars ('\x7b' :: p)) = none := by
  have hcut : cutAtClosing? (ofChars p) = none :=
    cutAtClosing?_of_not_mem fun hmem => h ((exactly_mem_ofChars_iff isApart_closing).1 hmem)
  rw [ofChars_opening, ofPieces?, if_pos rfl]
  split
  next => rfl
  next hsome => cases hsome.symm.trans hcut

/-- Any other character writes a piece, or part of one, as it does inside a choice. -/
lemma ofPieces?_piece (h : Writes a piece q) (hp : (a ++ q).head? ≠ some '\x7b') :
    ofPieces? (ofChars (a ++ q)) = (ofPieces? (ofChars q)).map (.piece piece :: ·) := by
  have hopening : piece ≠ opening := by
    rintro rfl
    cases h with
    | exactly => exact hp rfl
  rw [ofChars_append h, ofPieces?, if_neg hopening]

end GlobToken

namespace Glob

open GlobPiece

variable {p q r u : List Char} {c : Char}

/-- Induction on a pattern token by token. -/
@[elab_as_elim]
lemma inductionOn {motive : List Char → Prop} (p : List Char) (nil : motive [])
    (leftOpen : ∀ p, '\x7d' ∉ p → motive ('\x7b' :: p))
    (choice : ∀ body q, '\x7d' ∉ body → motive q → motive ('\x7b' :: (body ++ '\x7d' :: q)))
    (piece : ∀ a piece q, Writes a piece q → (a ++ q).head? ≠ some '\x7b' → motive q →
      motive (a ++ q)) :
    motive p := by
  by_cases hbrace : p.head? = some '\x7b'
  · obtain ⟨cs, rfl⟩ := List.head?_eq_some_iff.1 hbrace
    by_cases hclosed : '\x7d' ∈ cs
    · obtain ⟨body, q, hcs, hbody⟩ := List.eq_append_cons_of_mem hclosed
      have hlength : cs.length = body.length + (q.length + 1) := by rw [hcs, List.length_append,
        List.length_cons]
      rw [hcs]
      exact choice body q hbody (inductionOn q nil leftOpen choice piece)
    · exact leftOpen cs hclosed
  · by_cases hp : p = []
    · subst hp
      exact nil
    · obtain ⟨a, d, q, hwritten, h⟩ := exists_writes hp
      have hshorter : q.length < p.length := by
        rw [hwritten]
        cases h <;> simp only [List.length_append, List.length_cons, List.length_nil] <;> omega
      rw [hwritten] at hbrace ⊢
      exact piece a d q h hbrace (inductionOn q nil leftOpen choice piece)
termination_by p.length
decreasing_by
  · simp_all only [List.length_cons, List.length_append]
    omega
  · exact hshorter

/-- The characters up to the first closing brace are the same, however they are found. -/
lemma eq_of_append_closing {body body' : List Char} (hbody : '\x7d' ∉ body)
    (hbody' : '\x7d' ∉ body') (h : body ++ '\x7d' :: q = body' ++ '\x7d' :: r) :
    body = body' ∧ q = r := by
  have hcut := Text.cutAt?_append_cons hbody q
  rw [h, Text.cutAt?_append_cons hbody' r] at hcut
  cases hcut
  exact ⟨rfl, rfl⟩

/-! ## What is left open -/

lemma leftOpen_cons_iff (hc : c ≠ '\x7b') : LeftOpen (c :: p) ↔ LeftOpen p := by
  refine ⟨fun h => ?_, .later hc⟩
  cases h with
  | here => exact absurd rfl hc
  | afterChoice => exact absurd rfl hc
  | later _ h => exact h

lemma leftOpen_choice_iff {body : List Char} (hbody : '\x7d' ∉ body) :
    LeftOpen ('\x7b' :: (body ++ '\x7d' :: q)) ↔ LeftOpen q := by
  refine ⟨fun h => ?_, .afterChoice hbody⟩
  generalize hp : '\x7b' :: (body ++ '\x7d' :: q) = p at h
  cases h with
  | here h =>
    obtain rfl := (List.cons.inj hp).2
    simp at h
  | afterChoice hbody' h =>
    obtain ⟨rfl, rfl⟩ := eq_of_append_closing hbody hbody' (List.cons.inj hp).2
    exact h
  | later hc _ => exact absurd (List.cons.inj hp).1.symm hc

lemma leftOpen_append_iff {a : List Char} {piece : GlobPiece} (h : Writes a piece q)
    (hp : (a ++ q).head? ≠ some '\x7b') : LeftOpen (a ++ q) ↔ LeftOpen q := by
  cases h with
  | exactly => exact leftOpen_cons_iff fun hc => hp (congrArg some hc)
  | _ => simp only [List.cons_append, List.nil_append, leftOpen_cons_iff (by decide : '*' ≠ '\x7b'),
      leftOpen_cons_iff (by decide : '?' ≠ '\x7b'), leftOpen_cons_iff (by decide : '/' ≠ '\x7b')]

/-- A pattern is not read just if a brace is left open. -/
lemma ofPieces?_eq_none_iff (p : List Char) :
    GlobToken.ofPieces? (ofChars p) = none ↔ LeftOpen p := by
  induction p using inductionOn with
  | nil => exact iff_of_false (by simp [ofChars, GlobToken.ofPieces?]) nofun
  | leftOpen p h => exact iff_of_true (GlobToken.ofPieces?_leftOpen h) (.here h)
  | choice body q hbody ih => rw [GlobToken.ofPieces?_choice hbody, Option.map_eq_none_iff, ih,
      leftOpen_choice_iff hbody]
  | piece a d q h hp ih => rw [GlobToken.ofPieces?_piece h hp, Option.map_eq_none_iff, ih,
      leftOpen_append_iff h hp]

/-! ## What is denoted -/

lemma exists_of_language_choice {body : List Char} (hbody : '\x7d' ∉ body)
    (h : Language ('\x7b' :: (body ++ '\x7d' :: q)) u) :
    ∃ part ∈ body.splitOn ',', ∃ v w, u = v ++ w ∧ Sequence part v ∧ Language q w := by
  generalize hp : '\x7b' :: (body ++ '\x7d' :: q) = p at h
  cases h with
  | nil => cases hp
  | cons hbrace => exact absurd (hp ▸ rfl) hbrace
  | choice hbody' hpart h hq =>
    obtain ⟨rfl, rfl⟩ := eq_of_append_closing hbody hbody' (List.cons.inj hp).2
    exact ⟨_, hpart, _, _, rfl, h, hq⟩

lemma exists_of_language_piece {a : List Char} {piece : GlobPiece} (hwrites : Writes a piece q)
    (hbrace : (a ++ q).head? ≠ some '\x7b') (h : Language (a ++ q) u) :
    ∃ v w r, u = v ++ w ∧ Takes (a ++ q) v r ∧ Language r w := by
  generalize hp : a ++ q = p at h hbrace
  cases h with
  | nil => cases hwrites <;> cases hp
  | cons _ h hq => exact ⟨_, _, _, rfl, h, hq⟩
  | choice => exact absurd rfl hbrace

/-- A pattern that is read stands for the texts of its tokens. -/
lemma language_iff {p : List Char} {ts : List GlobToken}
    (hts : GlobToken.ofPieces? (ofChars p) = some ts) (hu : '\n' ∉ u) :
    Language p u ↔ InTurn GlobToken.Denotes ts u := by
  induction p using inductionOn generalizing ts u with
  | nil =>
    obtain rfl : ts = [] := by simpa [ofChars, GlobToken.ofPieces?] using hts.symm
    constructor
    · intro h
      cases h with
      | nil => exact .nil
      | cons _ h _ => cases h
    · intro h
      cases h
      exact .nil
  | leftOpen p h => cases hts.symm.trans (GlobToken.ofPieces?_leftOpen h)
  | choice body q hbody ih =>
    rw [GlobToken.ofPieces?_choice hbody] at hts
    obtain ⟨rest, hrest, rfl⟩ := Option.map_eq_some_iff.1 hts
    constructor
    · intro h
      obtain ⟨part, hpart, v, w, rfl, hv, hw⟩ := exists_of_language_choice hbody h
      rw [List.mem_append, not_or] at hu
      exact .cons ⟨_, List.mem_map_of_mem hpart, (sequence_iff hu.1).1 hv⟩ ((ih hrest hu.2).1 hw)
    · intro h
      cases h with
      | cons hv hw =>
        obtain ⟨_, ho, hv⟩ := hv
        obtain ⟨part, hpart, rfl⟩ := List.mem_map.1 ho
        rw [List.mem_append, not_or] at hu
        exact .choice hbody hpart ((sequence_iff hu.1).2 hv) ((ih hrest hu.2).2 hw)
  | piece a d q h hp ih =>
    rw [GlobToken.ofPieces?_piece h hp] at hts
    obtain ⟨rest, hrest, rfl⟩ := Option.map_eq_some_iff.1 hts
    constructor
    · intro hl
      obtain ⟨v, w, r, rfl, hv, hw⟩ := exists_of_language_piece h hp hl
      rw [List.mem_append, not_or] at hu
      obtain ⟨rfl, hdenotes⟩ := (takes_append_iff h hu.1).1 hv
      exact .cons hdenotes ((ih hrest hu.2).1 hw)
    · intro hl
      cases hl with
      | cons hv hw =>
        rw [List.mem_append, not_or] at hu
        exact .cons hp ((takes_append_iff h hu.1).2 ⟨rfl, hv⟩) ((ih hrest hu.2).2 hw)

/-! ## Patterns -/

/-- References to the current directory are dropped as long as the pattern starts with one. -/
lemma exists_replicate_withoutHere (p : List Char) :
    ∃ n, p = (List.replicate n ['.', '/']).flatten ++ withoutHere p ∧
      ¬['.', '/'] <+: withoutHere p := by
  fun_induction withoutHere p with
  | case1 p ih =>
    obtain ⟨n, hn, hrest⟩ := ih
    refine ⟨n + 1, ?_, hrest⟩
    rw [List.replicate_succ, List.flatten_cons, List.append_assoc, ← hn]
    rfl
  | case2 p h =>
    refine ⟨0, rfl, ?_⟩
    rintro ⟨rest, rfl⟩
    exact h rest rfl

/-- A pattern without the references to the current directory at its front is read unless it leaves
a brace open, and then it accepts just those paths of one line that it stands for. -/
theorem spec_ofString? (pattern : String) :
    ∃ n p, pattern.toList = (List.replicate n ['.', '/']).flatten ++ p ∧ ¬['.', '/'] <+: p ∧
      (ofString? pattern = none ↔ LeftOpen p) ∧
        ∀ g, ofString? pattern = some g → ∀ path : String, '\n' ∉ path.toList →
          (g.accepts path = true ↔ Language p path.toList) := by
  obtain ⟨n, hn, hrest⟩ := exists_replicate_withoutHere pattern.toList
  refine ⟨n, withoutHere pattern.toList, hn, hrest, ?_, ?_⟩
  · rw [ofString?, body, String.toList_ofList, Option.map_eq_none_iff, ofPieces?_eq_none_iff]
  · intro g hg path hpath
    rw [ofString?, body, String.toList_ofList] at hg
    obtain ⟨ts, hts, rfl⟩ := Option.map_eq_some_iff.1 hg
    rw [accepts_iff, Denotes, language_iff hts hpath]

theorem spec_ofString?_sample :
    ∃ g n p, "./*.\x7ba,b?\x7d".toList = (List.replicate n ['.', '/']).flatten ++ p ∧ ¬LeftOpen p ∧
      ofString? "./*.\x7ba,b?\x7d" = some g ∧ '\n' ∉ "x.bc".toList ∧ g.accepts "x.bc" = true ∧
        Language p "x.bc".toList := by
  obtain ⟨n, p, hp, -, hnone, haccepts⟩ := spec_ofString? "./*.\x7ba,b?\x7d"
  have hg : ofString? "./*.\x7ba,b?\x7d" = some ⟨[.piece .name, .piece (.exactly '.'),
      .choice [[.exactly 'a'], [.exactly 'b', .one]]]⟩ := by cbv
  have hpath : '\n' ∉ "x.bc".toList := by decide
  have haccept : Glob.accepts ⟨[.piece .name, .piece (.exactly '.'),
      .choice [[.exactly 'a'], [.exactly 'b', .one]]]⟩ "x.bc" = true := by decide
  refine ⟨_, n, p, hp, ?_, hg, hpath, haccept, (haccepts _ hg _ hpath).1 haccept⟩
  rw [← hnone, hg]
  exact Option.some_ne_none _

end Glob

end OperationGate
