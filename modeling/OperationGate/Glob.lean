import OperationGate.Text.Cut

/-!
# Globs

Patterns of paths. A pattern is a sequence of pieces, each of which stands for certain texts, and of
choices between sequences of pieces; the texts of a pattern are those that its pieces make one after
the other.

A text is matched from its front: each piece leaves the rests that its texts may leave. Main
statement: `accepts_iff` says that a pattern accepts exactly the texts that it denotes.
-/

namespace OperationGate

/-- A piece of a pattern. -/
inductive GlobPiece where
  /-- Directories with their slashes, or nothing. -/
  | directories
  /-- Any text within a line. -/
  | text
  /-- Any text without a slash. -/
  | name
  /-- One character that is not a slash. -/
  | one
  /-- A character that stands for itself. -/
  | exactly (c : Char)
  deriving DecidableEq, Repr, Inhabited

/-- A piece of a pattern, or a choice between sequences of pieces. -/
inductive GlobToken where
  | piece (p : GlobPiece)
  | choice (options : List (List GlobPiece))
  deriving DecidableEq, Repr, Inhabited

/-- A pattern of paths. -/
structure Glob where
  tokens : List GlobToken
  deriving DecidableEq, Repr, Inhabited

/-! ## The texts of a pattern -/

/-- The texts that a piece stands for. -/
def GlobPiece.Denotes : GlobPiece → List Char → Prop
  | .directories, u => u = [] ∨ ∃ v, u = v ++ ['/'] ∧ '\n' ∉ v
  | .text, u => '\n' ∉ u
  | .name, u => '/' ∉ u
  | .one, u => ∃ c, c ≠ '/' ∧ u = [c]
  | .exactly c, u => u = [c]

/-- Texts that members of a list make one after the other, where `P` tells the texts of each. -/
inductive InTurn {α : Type} (P : α → List Char → Prop) : List α → List Char → Prop where
  | nil : InTurn P [] []
  | cons {a : α} {as : List α} {u v : List Char} :
    P a u → InTurn P as v → InTurn P (a :: as) (u ++ v)

/-- The texts that a token stands for: those of its piece, or those of any of its options. -/
def GlobToken.Denotes : GlobToken → List Char → Prop
  | .piece p, u => p.Denotes u
  | .choice options, u => ∃ o ∈ options, InTurn GlobPiece.Denotes o u

/-- The texts that a pattern stands for. -/
def Glob.Denotes (g : Glob) (u : List Char) : Prop :=
  InTurn GlobToken.Denotes g.tokens u

/-! ## Matching -/

/-- What may follow the characters that satisfy `p` at the front of a text. -/
def restsWhile (p : Char → Bool) : List Char → List (List Char)
  | [] => [[]]
  | c :: cs => (c :: cs) :: if p c then restsWhile p cs else []

/-- What follows each slash of the first line of a text. -/
def restsAfterSlash : List Char → List (List Char)
  | [] => []
  | c :: cs =>
    if c = '\n' then []
    else if c = '/' then cs :: restsAfterSlash cs
    else restsAfterSlash cs

/-- What a piece may leave of a text. -/
def GlobPiece.rests : GlobPiece → List Char → List (List Char)
  | .directories, s => s :: restsAfterSlash s
  | .text, s => restsWhile (· ≠ '\n') s
  | .name, s => restsWhile (· ≠ '/') s
  | .one, c :: cs => if c = '/' then [] else [cs]
  | .exactly d, c :: cs => if c = d then [cs] else []
  | .one, [] | .exactly _, [] => []

/-- What the members of a list may leave of texts one after the other; each rest is listed once. -/
def restsInTurn {α : Type} (rests : α → List Char → List (List Char)) :
    List α → List (List Char) → List (List Char)
  | [], ss => ss
  | a :: as, ss => restsInTurn rests as (ss.flatMap (rests a)).eraseDups

/-- What a token may leave of a text. -/
def GlobToken.rests : GlobToken → List Char → List (List Char)
  | .piece p, s => p.rests s
  | .choice options, s => options.flatMap fun o => restsInTurn GlobPiece.rests o [s]

/-- Tells whether a pattern stands for a text. -/
def Glob.accepts (g : Glob) (path : String) : Bool :=
  (restsInTurn GlobToken.rests g.tokens [path.toList]).contains []

theorem mem_restsWhile_iff {p : Char → Bool} {s r : List Char} :
    r ∈ restsWhile p s ↔ ∃ u, (∀ c ∈ u, p c = true) ∧ s = u ++ r := by
  induction s with
  | nil =>
    simp only [restsWhile, List.mem_singleton]
    constructor
    · rintro rfl
      exact ⟨[], by simp, rfl⟩
    · rintro ⟨u, -, h⟩
      exact (List.append_eq_nil_iff.1 h.symm).2
  | cons c cs ih =>
    simp only [restsWhile, List.mem_cons]
    constructor
    · rintro (rfl | h)
      · exact ⟨[], by simp, rfl⟩
      · split at h
        next hc =>
          obtain ⟨u, hu, rfl⟩ := ih.1 h
          exact ⟨c :: u, by simpa [hc] using hu, rfl⟩
        next => simp at h
    · rintro ⟨u, hu, h⟩
      cases u with
      | nil => exact .inl h.symm
      | cons d u =>
        obtain ⟨rfl, rfl⟩ := List.cons.inj h
        right
        rw [if_pos (hu c (by simp))]
        exact ih.2 ⟨u, fun d hd => hu d (by simp [hd]), rfl⟩

theorem mem_restsAfterSlash_iff {s r : List Char} :
    r ∈ restsAfterSlash s ↔ ∃ v, '\n' ∉ v ∧ s = v ++ '/' :: r := by
  induction s with
  | nil => simp [restsAfterSlash]
  | cons c cs ih =>
    unfold restsAfterSlash
    by_cases hn : c = '\n'
    · simp only [hn, if_true, List.not_mem_nil, false_iff]
      rintro ⟨v, hv, h⟩
      cases v with
      | nil => simp at h
      | cons d v => exact hv ((List.cons.inj h).1 ▸ List.mem_cons_self)
    · rw [if_neg hn]
      have key : (∃ v, '\n' ∉ v ∧ c :: cs = v ++ '/' :: r) ↔
          (c = '/' ∧ cs = r) ∨ ∃ v, '\n' ∉ v ∧ cs = v ++ '/' :: r := by
        constructor
        · rintro ⟨v, hv, h⟩
          cases v with
          | nil => exact .inl (List.cons.inj h)
          | cons d v =>
            exact .inr ⟨v, fun hm => hv (List.mem_cons_of_mem _ hm), (List.cons.inj h).2⟩
        · rintro (⟨rfl, rfl⟩ | ⟨v, hv, rfl⟩)
          · exact ⟨[], by simp, rfl⟩
          · exact ⟨c :: v, by simp [Ne.symm hn, hv], rfl⟩
      rw [key, ← ih]
      split
      next hc => simp [hc, eq_comm]
      next hc => simp [hc]

/-- A piece leaves what its texts leave. -/
theorem GlobPiece.mem_rests_iff {p : GlobPiece} {s r : List Char} :
    r ∈ p.rests s ↔ ∃ u, p.Denotes u ∧ s = u ++ r := by
  have all_ne (x : Char) (u : List Char) : (∀ c ∈ u, decide (c ≠ x) = true) ↔ x ∉ u := by
    simp only [decide_eq_true_eq]
    exact ⟨fun h hx => h x hx rfl, fun h c hc hcx => h (hcx ▸ hc)⟩
  cases p with
  | directories =>
    simp only [rests, Denotes, List.mem_cons, mem_restsAfterSlash_iff]
    constructor
    · rintro (rfl | ⟨v, hv, rfl⟩)
      · exact ⟨[], .inl rfl, rfl⟩
      · exact ⟨v ++ ['/'], .inr ⟨v, rfl, hv⟩, by simp⟩
    · rintro ⟨u, rfl | ⟨v, rfl, hv⟩, rfl⟩
      · exact .inl rfl
      · exact .inr ⟨v, hv, by simp⟩
  | text => simp only [rests, Denotes, mem_restsWhile_iff, all_ne]
  | name => simp only [rests, Denotes, mem_restsWhile_iff, all_ne]
  | one =>
    cases s with
    | nil =>
      simp only [rests, List.not_mem_nil, false_iff]
      rintro ⟨u, ⟨c, -, rfl⟩, h⟩
      cases h
    | cons c cs =>
      simp only [rests, Denotes]
      constructor
      · intro h
        split at h
        · simp at h
        · next hc => exact ⟨[c], ⟨c, hc, rfl⟩, by simpa using (List.mem_singleton.1 h).symm⟩
      · rintro ⟨u, ⟨d, hd, rfl⟩, h⟩
        obtain ⟨rfl, rfl⟩ := List.cons.inj h
        simp [hd]
  | exactly d =>
    cases s with
    | nil => simp [rests, Denotes]
    | cons c cs =>
      simp only [rests, Denotes]
      constructor
      · intro h
        split at h
        · next hc => exact ⟨[d], rfl, by simpa [hc] using (List.mem_singleton.1 h).symm⟩
        · simp at h
      · rintro ⟨u, rfl, h⟩
        obtain ⟨rfl, rfl⟩ := List.cons.inj h
        simp

/-- Members of a list leave what their texts leave one after the other. -/
theorem mem_restsInTurn_iff {α : Type} {P : α → List Char → Prop}
    {rests : α → List Char → List (List Char)}
    (h : ∀ a s r, r ∈ rests a s ↔ ∃ u, P a u ∧ s = u ++ r) {as : List α} {ss : List (List Char)}
    {r : List Char} :
    r ∈ restsInTurn rests as ss ↔ ∃ s ∈ ss, ∃ u, InTurn P as u ∧ s = u ++ r := by
  induction as generalizing ss with
  | nil =>
    constructor
    · exact fun hr => ⟨r, hr, [], .nil, rfl⟩
    · rintro ⟨s, hs, u, hu, rfl⟩
      cases hu
      exact hs
  | cons a as ih =>
    simp only [restsInTurn, ih, List.mem_eraseDups, List.mem_flatMap, h]
    constructor
    · rintro ⟨_, ⟨s, hs, u, hu, rfl⟩, v, hv, rfl⟩
      exact ⟨_, hs, u ++ v, .cons hu hv, by simp⟩
    · rintro ⟨s, hs, _, hu, rfl⟩
      cases hu with
      | @cons _ _ u v hu hv => exact ⟨v ++ r, ⟨_, hs, u, hu, by simp⟩, v, hv, rfl⟩

/-- A token leaves what its texts leave. -/
theorem GlobToken.mem_rests_iff {t : GlobToken} {s r : List Char} :
    r ∈ t.rests s ↔ ∃ u, t.Denotes u ∧ s = u ++ r := by
  cases t with
  | piece p => exact GlobPiece.mem_rests_iff
  | choice options =>
    simp only [rests, Denotes, List.mem_flatMap,
      mem_restsInTurn_iff (P := GlobPiece.Denotes) fun _ _ _ => GlobPiece.mem_rests_iff,
      List.mem_singleton, exists_eq_left]
    exact ⟨fun ⟨o, ho, u, hu, hs⟩ => ⟨u, ⟨o, ho, hu⟩, hs⟩,
      fun ⟨u, ⟨o, ho, hu⟩, hs⟩ => ⟨o, ho, u, hu, hs⟩⟩

/-- A pattern accepts exactly the texts that it denotes. -/
theorem Glob.accepts_iff {g : Glob} {path : String} :
    g.accepts path = true ↔ g.Denotes path.toList := by
  rw [accepts, List.contains_iff_mem,
    mem_restsInTurn_iff (P := GlobToken.Denotes) fun _ _ _ => GlobToken.mem_rests_iff]
  simp [Denotes]

/-! ## Reading patterns -/

/-- The pieces that a text writes. Two stars and a slash stand for directories, two stars for any
text, and a star for any name. -/
def GlobPiece.ofChars : List Char → List GlobPiece
  | '*' :: '*' :: '/' :: cs => .directories :: ofChars cs
  | '*' :: '*' :: cs => .text :: ofChars cs
  | '*' :: cs => .name :: ofChars cs
  | '?' :: cs => .one :: ofChars cs
  | c :: cs => .exactly c :: ofChars cs
  | [] => []

/-- The brace that opens a choice. -/
def GlobPiece.opening : GlobPiece := .exactly '\x7b'

/-- The brace that closes a choice. -/
def GlobPiece.closing : GlobPiece := .exactly '\x7d'

/-- The comma between the options of a choice. -/
def GlobPiece.comma : GlobPiece := .exactly ','

/-- The pieces before and after the first closing brace, if there is one. -/
def GlobPiece.cutAtClosing? : List GlobPiece → Option (List GlobPiece × List GlobPiece)
  | [] => none
  | p :: ps =>
    if p = closing then some ([], ps) else (cutAtClosing? ps).map fun c => (p :: c.1, c.2)

theorem GlobPiece.length_lt_of_cutAtClosing? {ps body rest : List GlobPiece}
    (h : cutAtClosing? ps = some (body, rest)) : rest.length < ps.length := by
  induction ps generalizing body with
  | nil => simp [cutAtClosing?] at h
  | cons p ps ih =>
    unfold cutAtClosing? at h
    split at h
    · cases h
      simp
    · obtain ⟨⟨b, r⟩, hd, he⟩ := Option.map_eq_some_iff.1 h
      cases he
      exact Nat.lt_succ_of_lt (ih hd)

/-- The tokens that pieces make. A choice reaches from an opening brace to the next closing one;
commas part its options, and a further opening brace in it stands for itself. Nothing closes,
nothing is made. -/
def GlobToken.ofPieces? : List GlobPiece → Option (List GlobToken)
  | [] => some []
  | p :: ps =>
    if p = .opening then
      match h : GlobPiece.cutAtClosing? ps with
      | none => none
      | some (body, rest) =>
        have : rest.length < ps.length := GlobPiece.length_lt_of_cutAtClosing? h
        (ofPieces? rest).map (.choice (body.splitOn GlobPiece.comma) :: ·)
    else (ofPieces? ps).map (.piece p :: ·)
termination_by ps => ps.length
decreasing_by
  · exact Nat.lt_succ_of_lt this
  · exact Nat.lt_succ_self _

/-- A text without the references to the current directory at its front. -/
def withoutHere : List Char → List Char
  | '.' :: '/' :: cs => withoutHere cs
  | cs => cs

namespace Glob

/-- The text of a pattern as it is read: below the directory that it starts from. -/
def body (pattern : String) : String :=
  String.ofList (withoutHere pattern.toList)

/-- The pattern that a text writes, unless a choice is left open. -/
def ofString? (pattern : String) : Option Glob :=
  (GlobToken.ofPieces? (GlobPiece.ofChars (body pattern).toList)).map Glob.mk

end Glob

end OperationGate
