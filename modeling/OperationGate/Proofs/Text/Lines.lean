import OperationGate.Proofs.Text.Parts
import OperationGate.Proofs.Text.Script
import OperationGate.Text.Shown

/-!
# Tables in texts

A text of lines is read line by line. Some lines open a table and tell its key; the lines up to the
one that closes the table are its rows; all other lines are skipped. A `TableForm` says which lines
do so, and its reader `TableForm.read?` gives all rows of a text. What is read of texts in a row is
what is read of each (`TableForm.Lists.append`), and a table is read as its rows
(`TableForm.lists_table`).
-/

namespace OperationGate

namespace Text

/-! ## Lines -/

/-- Lines with the end of a line after each. -/
def unlines (lines : List String) : String :=
  String.join (lines.map (· ++ "\n"))

/-- Tells that a text stands on one line. -/
def IsLine (s : String) : Prop :=
  '\n' ∉ s.toList

instance (s : String) : Decidable (IsLine s) :=
  inferInstanceAs (Decidable ('\n' ∉ s.toList))

lemma IsLine.append {s t : String} (hs : IsLine s) (ht : IsLine t) : IsLine (s ++ t) := by
  rw [IsLine, String.toList_append, List.mem_append, not_or]
  exact ⟨hs, ht⟩

@[simp]
lemma unlines_nil : unlines [] = "" := rfl

@[simp]
lemma unlines_cons (line : String) (lines : List String) :
    unlines (line :: lines) = line ++ "\n" ++ unlines lines := by
  rw [unlines, List.map_cons, String.join_cons, unlines]

@[simp]
lemma unlines_append (lines lines' : List String) :
    unlines (lines ++ lines') = unlines lines ++ unlines lines' := by
  rw [unlines, List.map_append, String.join_append, unlines, unlines]

lemma unlines_map {α : Type} (line : α → String) (as : List α) :
    unlines (as.map line) = String.join (as.map fun a => line a ++ "\n") := by
  rw [unlines, List.map_map]
  rfl

lemma unlines_flatMap {α : Type} (lines : α → List String) (as : List α) :
    unlines (as.flatMap lines) = String.join (as.map fun a => unlines (lines a)) := by
  induction as with
  | nil => rfl
  | cons a as ih => rw [List.flatMap_cons, unlines_append, ih, List.map_cons, String.join_cons]

/-- Lines are found again in their text, with nothing after the last of them. -/
lemma splitAt_unlines {lines : List String} (h : ∀ line ∈ lines, IsLine line) :
    splitAt '\n' (unlines lines) = lines ++ [""] := by
  induction lines with
  | nil => exact splitAt_empty '\n'
  | cons line lines ih =>
    rw [List.forall_mem_cons] at h
    have hline : splitAt '\n' line = [line] :=
      @splitAt_joinWith '\n' [line] (List.forall_mem_singleton.2 h.1) (List.cons_ne_nil _ _)
    rw [unlines_cons]
    exact (splitAt_append '\n' line (unlines lines)).trans (by rw [hline, ih h.2]; rfl)

/-- The text of a table: the lines that open and close it, and its rows between them. -/
lemma unlines_table {α : Type} (head last : String) (line : α → String) (as : List α) :
    unlines (head :: as.map line ++ [last]) =
      head ++ "\n" ++ String.join (as.map fun a => line a ++ "\n") ++ (last ++ "\n") := by
  rw [unlines_append, unlines_cons, unlines_map, unlines_cons, unlines_nil, String.append_empty]

lemma isLine_table {α : Type} {head last : String} {line : α → String} {as : List α}
    (hhead : IsLine head) (hrows : ∀ a ∈ as, IsLine (line a)) (hlast : IsLine last) :
    ∀ x ∈ head :: as.map line ++ [last], IsLine x := by
  intro x hx
  rcases List.mem_append.1 hx with hx | hx
  · rcases List.mem_cons.1 hx with rfl | hx
    · exact hhead
    · obtain ⟨a, ha, rfl⟩ := List.mem_map.1 hx
      exact hrows a ha
  · exact List.mem_singleton.1 hx ▸ hlast

/-! ## Parts of a line -/

lemma beforeTail?_append_self (front tail : String) :
    beforeTail? tail (front ++ tail) = some front :=
  beforeTail?_eq_some_iff.2 rfl

lemma head?_append {front s : String} {c : Char} (h : front.toList.head? = some c) :
    (front ++ s).toList.head? = some c := by
  rw [String.toList_append, List.head?_append, h]
  rfl

/-- A text with another front is none that starts so. -/
lemma afterFront?_eq_none {front s : String} {c : Char} (hfront : front.toList.head? = some c)
    (hs : s.toList.head? ≠ some c) : afterFront? front s = none := by
  rw [Option.eq_none_iff_forall_ne_some]
  intro rest h
  rw [afterFront?_eq_some_iff.1 h, String.toList_append, List.head?_append, hfront] at hs
  exact hs rfl

/-- What stands before and after the first separator, if there is one. -/
def cut? (sep : Char) (s : String) : Option (String × String) :=
  (cutAt? sep s.toList).map fun p => (String.ofList p.1, String.ofList p.2)

lemma cut?_append {sep : Char} {s : String} (h : sep ∉ s.toList) (rest : String) :
    cut? sep (s ++ (String.singleton sep ++ rest)) = some (s, rest) := by
  have hchars : (s ++ (String.singleton sep ++ rest)).toList = s.toList ++ sep :: rest.toList := by
    simp
  rw [cut?, hchars, cutAt?_append_cons h]
  simp

/-- The text of the literal in front, and what follows it. -/
def literal? (s : String) : Option (String × String) := do
  let opened ← afterFront? "'" s
  let (text, rest) ← Literal.read opened.toList
  return (String.ofList text, String.ofList rest)

lemma literal?_quote_append (s rest : String) :
    literal? (Literal.quote s ++ rest) = some (s, rest) := by
  have hopened : Literal.quote s ++ rest =
      "'" ++ String.ofList (Literal.body s.toList ++ '\'' :: rest.toList) := by
    rw [← String.toList_inj]
    simp [Literal.quote]
  rw [literal?, hopened, afterFront?_append]
  simp [Literal.read_body]

/-- A literal stands on one line. -/
lemma isLine_quote (s : String) : IsLine (Literal.quote s) := by
  have hbody := (Literal.isEnclosed_body s.toList).feed
  rw [IsLine, Literal.quote, String.toList_ofList]
  simp [hbody]

/-- The truth value that a word names. -/
def flag? (s : String) : Option Bool :=
  if s = "true" then some true else if s = "false" then some false else none

lemma flag?_flag (b : Bool) : flag? (Shown.flag b) = some b := by
  cases b <;> rfl

end Text

/-! ## Tables -/

/-- How tables with keys of type `κ` stand in a text. -/
structure TableForm (κ α : Type) where
  /-- The key of the table that a line opens. -/
  opens : String → Option κ
  /-- Tells whether a line closes a table. -/
  closes : String → Bool
  /-- The row that a line in a table is. -/
  row? : κ → String → Option α

namespace TableForm

open Text

variable {κ α : Type} (f : TableForm κ α)

/-- Reads the rows of lines that stand in a table, if a key is given. A table must be closed, and
each of its lines be a row. -/
def readLines? : Option κ → List String → Option (List α)
  | none, [] => some []
  | some _, [] => none
  | none, line :: rest => readLines? (f.opens line) rest
  | some key, line :: rest =>
    if f.closes line then readLines? none rest
    else do
      let row ← f.row? key line
      let rows ← readLines? (some key) rest
      return row :: rows

/-- The rows of all tables in a text. -/
def read? (text : String) : Option (List α) :=
  f.readLines? none (splitAt '\n' text)

/-- Tells that lines are read as rows, whatever lines follow. -/
def Lists (lines : List String) (rows : List α) : Prop :=
  ∀ rest, f.readLines? none (lines ++ rest) = (f.readLines? none rest).map (rows ++ ·)

variable {f}

/-- Lines that open no table are skipped. -/
lemma lists_skipped {lines : List String} (h : ∀ line ∈ lines, f.opens line = none) :
    f.Lists lines [] := by
  intro rest
  induction lines with
  | nil => exact Option.map_id'.symm
  | cons line lines ih =>
    rw [List.forall_mem_cons] at h
    rw [List.cons_append, readLines?, h.1, ih h.2]

theorem Lists.append {lines lines' : List String} {rows rows' : List α} (h : f.Lists lines rows)
    (h' : f.Lists lines' rows') : f.Lists (lines ++ lines') (rows ++ rows') := by
  intro rest
  rw [List.append_assoc, h, h', Option.map_map]
  simp only [Function.comp_def, List.append_assoc]

lemma Lists.flatMap {β : Type} {lines : β → List String} {rows : β → List α} {bs : List β}
    (h : ∀ b ∈ bs, f.Lists (lines b) (rows b)) : f.Lists (bs.flatMap lines) (bs.flatMap rows) := by
  induction bs with
  | nil => exact lists_skipped (by simp)
  | cons b bs ih =>
    rw [List.forall_mem_cons] at h
    rw [List.flatMap_cons, List.flatMap_cons]
    exact h.1.append (ih h.2)

/-- A table is read as its rows. -/
theorem lists_table {β : Type} {key : κ} {head last : String} {line : β → String} {row : β → α}
    {bs : List β} (hhead : f.opens head = some key)
    (hrows : ∀ b ∈ bs, f.closes (line b) = false ∧ f.row? key (line b) = some (row b))
    (hlast : f.closes last = true) : f.Lists (head :: bs.map line ++ [last]) (bs.map row) := by
  intro rest
  -- Once the table is open, the induction is on the rows that are left in it.
  have hinside : f.readLines? (some key) (bs.map line ++ last :: rest) =
      (f.readLines? none rest).map (bs.map row ++ ·) := by
    induction bs with
    | nil =>
      rw [List.map_nil, List.nil_append, readLines?, if_pos hlast]
      exact Option.map_id'.symm
    | cons b bs ih =>
      rw [List.forall_mem_cons] at hrows
      rw [List.map_cons, List.cons_append, readLines?, if_neg (by simp [hrows.1.1]),
        hrows.1.2, ih hrows.2]
      cases f.readLines? none rest <;> rfl
  rw [List.append_assoc, List.cons_append, readLines?, hhead]
  exact hinside

/-- The rows of a text of lines. -/
lemma Lists.read?_unlines {lines : List String} {rows : List α} (h : f.Lists lines rows)
    (hlines : ∀ line ∈ lines, IsLine line) (hend : f.opens "" = none) :
    f.read? (unlines lines) = some rows := by
  rw [read?, splitAt_unlines hlines, h, readLines?, hend, readLines?, Option.map_some,
    List.append_nil]

end TableForm

end OperationGate
