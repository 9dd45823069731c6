import OperationGate.Document.Token

/-!
# Grammars over tokens

A grammar reads a construct at the front of a token list, or fails. It gives back the tokens behind
the construct, so lists of constructs end. The next token alone decides how to go on: there is no
trying and taking back, and a construct that was started and cannot be finished makes the whole text
unreadable.
-/

namespace OperationGate

/-- Reads a construct at the front of a token list. -/
def Grammar (α : Type) : Type :=
  (ts : List Token) → Option { r : α × List Token // r.2 <:+ ts }

namespace Grammar

variable {α β : Type}

instance : Monad Grammar where
  pure a := fun ts => some ⟨(a, ts), List.suffix_rfl⟩
  bind p f := fun ts =>
    match p ts with
    | none => none
    | some ⟨(a, r), h⟩ =>
      match f a r with
      | none => none
      | some ⟨(b, r'), h'⟩ => some ⟨(b, r'), h'.trans h⟩

/-- The grammar that nothing satisfies. -/
def fail : Grammar α :=
  fun _ => none

/-- The next token, which stays where it is. -/
def peek : Grammar (Option Token) :=
  fun ts => some ⟨(ts.head?, ts), List.suffix_rfl⟩

/-- A name. -/
def name : Grammar String :=
  fun
  | .name n :: rest => some ⟨(n, rest), List.suffix_cons _ _⟩
  | _ => none

/-- A given name. -/
def keyword (s : String) : Grammar Unit := do
  if (← name) = s then return () else fail

/-- A given punctuation character. -/
def punct (c : Char) : Grammar Unit :=
  fun
  | .punct d :: rest => if d = c then some ⟨((), rest), List.suffix_cons _ _⟩ else none
  | _ => none

/-- Reads a construct if the next token is the given one. -/
def ifNext (t : Token) (g : Grammar α) : Grammar (Option α) := do
  if (← peek) = some t then some <$> g else return none

/-- Skips a token if it is the next one, and tells whether it was. -/
def skip (t : Token) : Grammar Bool :=
  fun
  | u :: rest => if u = t then some ⟨(true, rest), List.suffix_cons _ _⟩
      else some ⟨(false, u :: rest), List.suffix_rfl⟩
  | [] => some ⟨(false, []), List.suffix_rfl⟩

/-- Items up to a closing punctuation character, each of them at least one token long. -/
def itemsUntil (close : Char) (item : Grammar α) (ts : List Token) :
    Option { r : List α × List Token // r.2 <:+ ts } :=
  match punct close ts with
  | some ⟨((), r), h⟩ => some ⟨([], r), h⟩
  | none =>
    match item ts with
    | none => none
    | some ⟨(a, r), h⟩ =>
      if _hr : r.length < ts.length then
        match itemsUntil close item r with
        | none => none
        | some ⟨(as, r'), h'⟩ => some ⟨(a :: as, r'), h'.trans h⟩
      else none
termination_by ts.length

/-- Items between punctuation characters. -/
def enclosed (left right : Char) (item : Grammar α) : Grammar (List α) := do
  punct left
  itemsUntil right item

/-- Items between punctuation characters, at least one, if the opening character comes next. -/
def optionalBlock (left right : Char) (item : Grammar α) : Grammar (List α) := do
  match ← ifNext (.punct left) (enclosed left right item) with
  | none => return []
  | some [] => fail
  | some items => return items

/-- Items that each start with a given punctuation character, as many as there are. -/
def repeatedAfter (mark : Char) (item : Grammar α) (ts : List Token) :
    Option { r : List α × List Token // r.2 <:+ ts } :=
  match punct mark ts with
  | none => some ⟨([], ts), List.suffix_rfl⟩
  | some ⟨((), r), h⟩ =>
    match item r with
    | none => none
    | some ⟨(a, r'), h'⟩ =>
      if _hr : r'.length < ts.length then
        match repeatedAfter mark item r' with
        | none => none
        | some ⟨(as, r''), h''⟩ => some ⟨(a :: as, r''), h''.trans (h'.trans h)⟩
      else none
termination_by ts.length

/-- One item or more with a punctuation character between neighbours. -/
def separated (mark : Char) (item : Grammar α) : Grammar (List α) := do
  let first ← item
  let rest ← repeatedAfter mark item
  return first :: rest

/-- Constructs up to the end of the tokens, at least one. -/
def toEnd (item : Grammar α) (ts : List Token) : Option (List α) :=
  match item ts with
  | none => none
  | some ⟨(a, r), _⟩ =>
    if r.isEmpty then some [a]
    else if r.length < ts.length then (toEnd item r).map (a :: ·)
    else none
termination_by ts.length

end Grammar

end OperationGate
