import OperationGate.Document.Basic
import OperationGate.Document.Grammar

/-!
# Reading documents

The grammar of operation documents. Values, types and selections hold constructs of their own kind;
their readers give back a shorter list of tokens, which is why they end.
-/

namespace OperationGate.Document.Parser

/-- Tells that tokens are left of others after the first of them or more. -/
def IsRest (r ts : List Token) : Prop :=
  ∃ t rest, ts = t :: rest ∧ r <:+ rest

namespace IsRest

variable {t : Token} {r r' rest ts : List Token}

theorem cons (h : r <:+ rest) : IsRest r (t :: rest) :=
  ⟨t, rest, rfl, h⟩

theorem suffix (h : IsRest r ts) : r <:+ ts := by
  obtain ⟨t, rest, rfl, h⟩ := h
  exact h.trans (List.suffix_cons t rest)

theorem length_lt (h : IsRest r ts) : r.length < ts.length := by
  obtain ⟨t, rest, rfl, h⟩ := h
  exact Nat.lt_succ_of_le h.length_le

theorem of_suffix (h : r' <:+ r) (hr : IsRest r ts) : IsRest r' ts := by
  obtain ⟨t, rest, rfl, hr⟩ := hr
  exact cons (h.trans hr)

end IsRest

/-- What is read from the front of a token list, with the rest, which is shorter. -/
abbrev Parsed (α : Type) (ts : List Token) :=
  Option { r : α × List Token // IsRest r.2 ts }

/-- A reader that gives back a shorter list is a grammar. -/
def grammar {α : Type} (read : (ts : List Token) → Parsed α ts) : Grammar α :=
  fun ts => (read ts).map fun r => ⟨r.1, r.2.suffix⟩

/-- A given punctuation character, which makes the rest shorter. -/
def punct (c : Char) (ts : List Token) : Parsed Unit ts :=
  match ts with
  | .punct d :: rest => if d = c then some ⟨((), rest), .cons List.suffix_rfl⟩ else none
  | _ => none

/-- The value of a name that stands for one. -/
def valueOfName (n : String) : Value :=
  if n = "true" then .bool true
  else if n = "false" then .bool false
  else if n = "null" then .null
  else .enum n

mutual

/-- Reads a value; only some places allow variables in it. -/
def value (takesVariables : Bool) (ts : List Token) : Parsed Value ts :=
  match ts with
  | .name n :: rest => some ⟨(valueOfName n, rest), .cons List.suffix_rfl⟩
  | .int n :: rest => some ⟨(.int n, rest), .cons List.suffix_rfl⟩
  | .float d :: rest => some ⟨(.float d, rest), .cons List.suffix_rfl⟩
  | .text s :: rest => some ⟨(.text s, rest), .cons List.suffix_rfl⟩
  | .punct c :: rest =>
    if c = '$' && takesVariables then
      match rest with
      | .name n :: rest => some ⟨(.var n, rest), .cons (List.suffix_cons _ _)⟩
      | _ => none
    else if c = '[' then
      match values takesVariables rest with
      | some ⟨(vs, r), h⟩ => some ⟨(.list vs, r), .cons h.suffix⟩
      | none => none
    else if c = '\x7b' then
      match members takesVariables rest with
      | some ⟨(ms, r), h⟩ =>
        some ⟨(.record (ms.foldl (fun t m => Table.insertEntry m.1 m.2 t) []), r), .cons h.suffix⟩
      | none => none
    else none
  | _ => none
termination_by (ts.length, 0)

/-- Reads the items of a list up to its closing bracket. -/
def values (takesVariables : Bool) (ts : List Token) : Parsed (List Value) ts :=
  match punct ']' ts with
  | some ⟨((), r), h⟩ => some ⟨([], r), h⟩
  | none =>
    match value takesVariables ts with
    | none => none
    | some ⟨(v, r), h⟩ =>
      match values takesVariables r with
      | none => none
      | some ⟨(vs, r'), h'⟩ => some ⟨(v :: vs, r'), .of_suffix h'.suffix h⟩
termination_by (ts.length, 1)
decreasing_by
  · exact .right _ Nat.one_pos
  · exact .left _ _ h.length_lt

/-- Reads the members of a record up to its closing brace. -/
def members (takesVariables : Bool) (ts : List Token) : Parsed (List (String × Value)) ts :=
  match ts with
  | .punct c :: rest => if c = '\x7d' then some ⟨([], rest), .cons List.suffix_rfl⟩ else none
  | .name n :: .punct c :: rest =>
    if c = ':' then
      match value takesVariables rest with
      | none => none
      | some ⟨(v, r), h⟩ =>
        match members takesVariables r with
        | none => none
        | some ⟨(ms, r'), h'⟩ =>
          some ⟨((n, v) :: ms, r'), .cons ((h'.suffix.trans h.suffix).trans (List.suffix_cons _ _))⟩
    else none
  | _ => none
termination_by (ts.length, 1)
decreasing_by
  · exact .left _ _ (by simp only [List.length_cons]; omega)
  · have shorter := h.length_lt
    exact .left _ _ (by simp only [List.length_cons] at shorter ⊢; omega)

end

/-- An argument: a name, a colon and a value. -/
def argument : Grammar (String × Value) := do
  let n ← Grammar.name
  Grammar.punct ':'
  return (n, ← grammar (value true))

/-- Arguments in parentheses, at least one, if a parenthesis comes next. -/
def arguments : Grammar Arguments :=
  Grammar.optionalBlock '(' ')' argument

/-- Directives, as many as there are. -/
def directives : Grammar (List Directive) :=
  Grammar.repeatedAfter '@' do
    let n ← Grammar.name
    return ⟨n, ← arguments⟩

/-- Marks a type as never null if an exclamation mark comes next. -/
def marked {ts : List Token} (t : TypeRef) (rest : List Token) (h : IsRest rest ts) :
    Parsed TypeRef ts :=
  match punct '!' rest with
  | some ⟨((), r), h'⟩ => some ⟨(.nonNull t, r), .of_suffix h'.suffix h⟩
  | none => some ⟨(t, rest), h⟩

/-- Reads a reference to a type. -/
def typeRef (ts : List Token) : Parsed TypeRef ts :=
  match ts with
  | .name n :: rest => marked (.named n) rest (.cons List.suffix_rfl)
  | .punct c :: rest =>
    if c = '[' then
      match typeRef rest with
      | none => none
      | some ⟨(t, r), h⟩ =>
        match punct ']' r with
        | none => none
        | some ⟨((), r'), h'⟩ => marked (.list t) r' (.cons (h'.suffix.trans h.suffix))
    else none
  | _ => none
termination_by ts.length

/-- A reference to a type. -/
def type : Grammar TypeRef :=
  grammar typeRef

/-- A default value, if an equals sign comes next; variables may not stand in it. -/
def defaultValue : Grammar (Option Value) := do
  if ← Grammar.skip (.punct '=') then some <$> grammar (value false) else return none

/-- The alias and the name of a field whose first name was read: with a colon next, that name is the
alias and another follows. -/
def aliased (first : String) : Grammar (Option String × String) := do
  if ← Grammar.skip (.punct ':') then return (some first, ← Grammar.name)
  else return (none, first)

/-- What three points introduce: an inline fragment, with a type condition if the word `on` follows,
or else, if a name follows, the spread of a fragment. -/
inductive Spreading where
  | inline (condition : Option String)
  | fragment (name : String)

/-- What follows three points. -/
def spreading : Grammar Spreading := do
  match ← Grammar.peek with
  | some (.name n) =>
    let _ ← Grammar.name
    if n = "on" then return .inline (some (← Grammar.name)) else return .fragment n
  | _ => return .inline none

mutual

/-- Reads a selection. -/
def selection (ts : List Token) : Parsed Node ts :=
  match ts with
  | .name n :: rest =>
    match aliased n rest with
    | none => none
    | some ⟨((aliasName, n), r), h⟩ =>
      match arguments r with
      | none => none
      | some ⟨(as, r'), ha⟩ =>
        match directives r' with
        | none => none
        | some ⟨(ds, r''), hd⟩ =>
          match punct '\x7b' r'' with
          | none => some ⟨(.field aliasName n as ds [], r''), .cons ((hd.trans ha).trans h)⟩
          | some ⟨((), b), hb'⟩ =>
            match selections b with
            | none => none
            | some ⟨(ss, e), he⟩ =>
              some ⟨(.field aliasName n as ds ss, e),
                .cons ((he.suffix.trans hb'.suffix).trans ((hd.trans ha).trans h))⟩
  | .spread :: rest =>
    match spreading rest with
    | none => none
    | some ⟨(.fragment fragment, r), h⟩ =>
      match directives r with
      | none => none
      | some ⟨(ds, r'), hd⟩ => some ⟨(.spread fragment ds, r'), .cons (hd.trans h)⟩
    | some ⟨(.inline condition, r), h⟩ =>
      match directives r with
      | none => none
      | some ⟨(ds, r'), hd⟩ =>
        match punct '\x7b' r' with
        | none => none
        | some ⟨((), b), hb'⟩ =>
          match selections b with
          | none => none
          | some ⟨(ss, e), he⟩ =>
            some ⟨(.inline condition ds ss, e),
              .cons ((he.suffix.trans hb'.suffix).trans (hd.trans h))⟩
  | _ => none
termination_by (ts.length, 0)
decreasing_by
  · have shorter := hb'.length_lt
    have kept := ((hd.trans ha).trans h).length_le
    simp only at shorter kept
    simp_wf
    omega
  · have shorter := hb'.length_lt
    have kept := (hd.trans h).length_le
    simp only at shorter kept
    simp_wf
    omega

/-- Reads selections, at least one, up to the closing brace. -/
def selections (ts : List Token) : Parsed (List Node) ts :=
  match selection ts with
  | none => none
  | some ⟨(s, r), h⟩ =>
    match punct '\x7d' r with
    | some ⟨((), r'), h'⟩ => some ⟨([s], r'), .of_suffix h'.suffix h⟩
    | none =>
      match selections r with
      | none => none
      | some ⟨(ss, r'), h'⟩ => some ⟨(s :: ss, r'), .of_suffix h'.suffix h⟩
termination_by (ts.length, 1)
decreasing_by
  · exact .right _ Nat.one_pos
  · exact .left _ _ h.length_lt

end

/-- Selections in braces. -/
def block : Grammar (List Node) := do
  Grammar.punct '\x7b'
  grammar selections

/-- A declared variable. -/
def declaredVariable : Grammar Variable := do
  Grammar.punct '$'
  let n ← Grammar.name
  Grammar.punct ':'
  let t ← type
  return ⟨n, t, ← defaultValue⟩

/-- An operation after its keyword. -/
def operation (kind : OperationKind) : Grammar Operation := do
  let n ← match ← Grammar.peek with
    | some (.name _) => some <$> Grammar.name
    | _ => pure none
  let parameters ← Grammar.optionalBlock '(' ')' declaredVariable
  let ds ← directives
  return ⟨kind, n, parameters, ds, ← block⟩

/-- A fragment after its keyword. -/
def fragment : Grammar Fragment := do
  let n ← Grammar.name
  Grammar.keyword "on"
  let condition ← Grammar.name
  let ds ← directives
  return ⟨n, condition, ds, ← block⟩

/-- A definition. -/
def definition : Grammar Definition := do
  match ← Grammar.peek with
  | some (.name n) =>
    let _ ← Grammar.name
    match OperationKind.ofWord? n with
    | some kind => return .operation (← operation kind)
    | none => if n = "fragment" then return .fragment (← fragment) else Grammar.fail
  | _ => return .bare (← block)

end OperationGate.Document.Parser

namespace OperationGate.Document

/-- Reads a document: one definition or more. -/
def read? (s : String) : Option (List Definition) := do
  Grammar.toEnd Parser.definition (← Token.ofText? s)

end OperationGate.Document
