import OperationGate.Json.Basic

/-!
# Written data

A data text before anything is decided about it: numbers keep their digits, strings their escapes
and records every member in order, repeated names included. `Source.read?` reads a whole text; it
accepts exactly the grammar of data texts and sets no limit to their depth.
-/

namespace OperationGate.Json

/-- A number as written. -/
structure NumberSource where
  negative : Bool
  /-- The digits before the point. -/
  whole : List Char
  /-- The digits after the point, if there is one. -/
  fraction : Option (List Char)
  /-- The sign of the exponent, true if negative, and its digits, if there is one. -/
  exponent : Option (Bool × List Char)
  deriving DecidableEq, Repr, Inhabited

/-- One step of a string as written: a character, by itself or by a short escape, or an escaped unit
of 16 bits. -/
inductive TextUnit where
  | char (c : Char)
  | unit (n : Nat)
  deriving DecidableEq, Repr, Inhabited

/-- A value as written. -/
inductive Source where
  | null
  | bool (b : Bool)
  | number (n : NumberSource)
  | text (units : List TextUnit)
  | list (items : List Source)
  | record (members : List (List TextUnit × Source))
  deriving Repr, Inhabited

namespace Source

/-- What is read from the front of a text, with the rest, which is shorter. -/
abbrev Reading (α : Type) (cs : List Char) :=
  Option { r : α × List Char // r.2.length < cs.length }

/-- Blanks between the parts of a data text. -/
def isGap (c : Char) : Bool :=
  c = ' ' || c = '\n' || c = '\t' || c = '\r'

/-- Skips blanks. -/
def skipGap (cs : List Char) : List Char :=
  cs.dropWhile isGap

theorem length_skipGap_le (cs : List Char) : (skipGap cs).length ≤ cs.length :=
  (List.dropWhile_sublist _).length_le

/-- The value of a hexadecimal digit. -/
def hexDigit? (c : Char) : Option Nat :=
  if c.isDigit then some (c.toNat - 48)
  else if 'a' ≤ c && c ≤ 'f' then some (c.toNat - 87)
  else if 'A' ≤ c && c ≤ 'F' then some (c.toNat - 55)
  else none

/-- The number of four hexadecimal digits. -/
def hex4? (a b c d : Char) : Option Nat := do
  let a ← hexDigit? a
  let b ← hexDigit? b
  let c ← hexDigit? c
  let d ← hexDigit? d
  return ((a * 16 + b) * 16 + c) * 16 + d

/-- The character that a short escape stands for. -/
def shortEscape? : Char → Option Char
  | '"' => some '"'
  | '\\' => some '\\'
  | '/' => some '/'
  | 'b' => some '\x08'
  | 'f' => some '\x0c'
  | 'n' => some '\n'
  | 'r' => some '\r'
  | 't' => some '\t'
  | _ => none

/-- Reads a string after its opening quote. Controls below the space must be escaped. -/
def readUnits : List Char → Option (List TextUnit × List Char)
  | [] => none
  | '"' :: rest => some ([], rest)
  | '\\' :: 'u' :: a :: b :: c :: d :: rest =>
    match hex4? a b c d, readUnits rest with
    | some n, some (us, r) => some (.unit n :: us, r)
    | _, _ => none
  | '\\' :: c :: rest =>
    match shortEscape? c, readUnits rest with
    | some e, some (us, r) => some (.char e :: us, r)
    | _, _ => none
  | c :: rest =>
    if c.toNat < 32 || c = '\\' then none
    else match readUnits rest with
      | some (us, r) => some (.char c :: us, r)
      | none => none

theorem length_of_readUnits {cs : List Char} {us : List TextUnit} {r : List Char}
    (h : readUnits cs = some (us, r)) : r.length < cs.length := by
  fun_induction readUnits cs generalizing us <;>
    simp_all only [List.length_cons, Option.some.injEq, Prod.mk.injEq, reduceCtorEq] <;> grind

/-- Reads digits; at least one is needed. -/
def readDigits (cs : List Char) : Option (List Char × List Char) :=
  let ds := cs.takeWhile Char.isDigit
  if ds.isEmpty then none else some (ds, cs.dropWhile Char.isDigit)

/-- Reads the digits before the point: a zero alone, or digits that start with none. -/
def readWhole : List Char → Option (List Char × List Char)
  | '0' :: rest => some (['0'], rest)
  | cs => readDigits cs

/-- Reads a point and the digits after it, if a point comes next. -/
def readFraction : List Char → Option (Option (List Char) × List Char)
  | '.' :: rest => (readDigits rest).map fun p => (some p.1, p.2)
  | cs => some (none, cs)

/-- Reads an exponent, if one comes next. -/
def readExponent : List Char → Option (Option (Bool × List Char) × List Char)
  | c :: rest =>
    if c = 'e' || c = 'E' then
      match rest with
      | '-' :: rest => (readDigits rest).map fun p => (some (true, p.1), p.2)
      | '+' :: rest => (readDigits rest).map fun p => (some (false, p.1), p.2)
      | rest => (readDigits rest).map fun p => (some (false, p.1), p.2)
    else some (none, c :: rest)
  | [] => some (none, [])

/-- Reads a number without its sign. -/
def readMagnitude (negative : Bool) (cs : List Char) : Option (NumberSource × List Char) := do
  let (whole, cs) ← readWhole cs
  let (fraction, cs) ← readFraction cs
  let (exponent, cs) ← readExponent cs
  return (⟨negative, whole, fraction, exponent⟩, cs)

/-- Reads a number. -/
def readNumber : List Char → Option (NumberSource × List Char)
  | '-' :: rest => readMagnitude true rest
  | cs => readMagnitude false cs

theorem length_of_readDigits {cs d r : List Char} (h : readDigits cs = some (d, r)) :
    r.length < cs.length := by
  have e := congrArg List.length (List.takeWhile_append_dropWhile (p := Char.isDigit) (l := cs))
  rw [List.length_append] at e
  simp only [readDigits] at h
  split at h
  · simp at h
  next hne =>
    simp only [Option.some.injEq, Prod.mk.injEq] at h
    have : 0 < (cs.takeWhile Char.isDigit).length :=
      List.length_pos_iff.2 fun h0 => hne (by simp [h0])
    rw [← h.2]
    omega

theorem length_of_readWhole {cs d r : List Char} (h : readWhole cs = some (d, r)) :
    r.length < cs.length := by
  unfold readWhole at h
  split at h
  · grind
  · exact length_of_readDigits h

theorem length_of_readFraction {cs r : List Char} {f : Option (List Char)}
    (h : readFraction cs = some (f, r)) : r.length ≤ cs.length := by
  unfold readFraction at h
  split at h
  · obtain ⟨p, hp, hq⟩ := Option.map_eq_some_iff.1 h
    have := length_of_readDigits (d := p.1) (r := p.2) hp
    grind
  · grind

theorem length_of_readExponent {cs r : List Char} {e : Option (Bool × List Char)}
    (h : readExponent cs = some (e, r)) : r.length ≤ cs.length := by
  unfold readExponent at h
  split at h
  · split at h
    · split at h <;>
      · obtain ⟨p, hp, hq⟩ := Option.map_eq_some_iff.1 h
        have := length_of_readDigits (d := p.1) (r := p.2) hp
        grind
    · grind
  · grind

theorem length_of_readMagnitude {s : Bool} {cs r : List Char} {n : NumberSource}
    (h : readMagnitude s cs = some (n, r)) : r.length < cs.length := by
  simp only [readMagnitude, Option.bind_eq_bind, Option.bind_eq_some_iff, Option.pure_def,
    Option.some.injEq, Prod.mk.injEq] at h
  obtain ⟨p, hp, q, hq, e, he, -, hr⟩ := h
  have := length_of_readWhole (d := p.1) (r := p.2) hp
  have := length_of_readFraction (f := q.1) (r := q.2) hq
  have := length_of_readExponent (e := e.1) (r := e.2) he
  rw [← hr]
  omega

theorem length_of_readNumber {cs r : List Char} {n : NumberSource}
    (h : readNumber cs = some (n, r)) : r.length < cs.length := by
  unfold readNumber at h
  split at h
  · have := length_of_readMagnitude h
    simp only [List.length_cons]
    omega
  · exact length_of_readMagnitude h

mutual

/-- Reads a value at the front of a text, after blanks. -/
def readValue (cs : List Char) : Reading Source cs :=
  match h : skipGap cs with
  | 'n' :: 'u' :: 'l' :: 'l' :: rest => some ⟨(.null, rest), by
      have := length_skipGap_le cs; grind⟩
  | 't' :: 'r' :: 'u' :: 'e' :: rest => some ⟨(.bool true, rest), by
      have := length_skipGap_le cs; grind⟩
  | 'f' :: 'a' :: 'l' :: 's' :: 'e' :: rest => some ⟨(.bool false, rest), by
      have := length_skipGap_le cs; grind⟩
  | '"' :: rest =>
    match hu : readUnits rest with
    | some (us, r) => some ⟨(.text us, r), by
        have := length_skipGap_le cs; have := length_of_readUnits hu; grind⟩
    | none => none
  | '[' :: rest =>
    match readItems true rest with
    | some ⟨(items, r), hr⟩ => some ⟨(.list items, r), by
        have := length_skipGap_le cs; grind⟩
    | none => none
  | '\x7b' :: rest =>
    match readMembers true rest with
    | some ⟨(members, r), hr⟩ => some ⟨(.record members, r), by
        have := length_skipGap_le cs; grind⟩
    | none => none
  | other =>
    match hn : readNumber other with
    | some (n, r) => some ⟨(.number n, r), by
        have := length_skipGap_le cs; have := length_of_readNumber hn; grind⟩
    | none => none
termination_by (cs.length, 0)
decreasing_by
  all_goals
    have := length_skipGap_le cs
    rw [h] at this
    simp only [List.length_cons] at this
    omega

/-- Reads the items of a list, up to and with the closing bracket; only before the first item may
the bracket come at once. -/
def readItems (first : Bool) (cs : List Char) : Reading (List Source) cs :=
  match h : skipGap cs with
  | ']' :: rest =>
    if first then some ⟨([], rest), by have := length_skipGap_le cs; grind⟩ else none
  | _ =>
    match readValue cs with
    | none => none
    | some ⟨(v, r), hr⟩ =>
      match h' : skipGap r with
      | ']' :: rest => some ⟨([v], rest), by have := length_skipGap_le r; grind⟩
      | ',' :: rest =>
        match readItems false rest with
        | some ⟨(vs, r'), hr'⟩ => some ⟨(v :: vs, r'), by
            have := length_skipGap_le r; grind⟩
        | none => none
      | _ => none
termination_by (cs.length, 1)
decreasing_by
  · exact Prod.Lex.right _ Nat.one_pos
  · have := length_skipGap_le r
    simp only [h', List.length_cons] at this
    simp only at hr
    omega

/-- Reads the members of a record, up to and with the closing brace; only before the first member
may the brace come at once. -/
def readMembers (first : Bool) (cs : List Char) : Reading (List (List TextUnit × Source)) cs :=
  match h : skipGap cs with
  | '\x7d' :: rest =>
    if first then some ⟨([], rest), by have := length_skipGap_le cs; grind⟩ else none
  | '"' :: rest =>
    match hk : readUnits rest with
    | none => none
    | some (k, r₁) =>
      match hc : skipGap r₁ with
      | ':' :: r₂ =>
        match readValue r₂ with
        | none => none
        | some ⟨(v, r₃), hr⟩ =>
          match h' : skipGap r₃ with
          | '\x7d' :: rest => some ⟨([(k, v)], rest), by
              have := length_skipGap_le cs; have := length_of_readUnits hk
              have := length_skipGap_le r₁; have := length_skipGap_le r₃; grind⟩
          | ',' :: rest =>
            match readMembers false rest with
            | some ⟨(ms, r₄), hr'⟩ => some ⟨((k, v) :: ms, r₄), by
                have := length_skipGap_le cs; have := length_of_readUnits hk
                have := length_skipGap_le r₁; have := length_skipGap_le r₃; grind⟩
            | none => none
          | _ => none
      | _ => none
  | _ => none
termination_by (cs.length, 1)
decreasing_by
  · have h1 := length_skipGap_le cs
    have h2 := length_of_readUnits hk
    have h3 := length_skipGap_le r₁
    simp only [h, hc, List.length_cons] at h1 h3
    omega
  · have h1 := length_skipGap_le cs
    have h2 := length_of_readUnits hk
    have h3 := length_skipGap_le r₁
    have h4 := length_skipGap_le r₃
    simp only [h, hc, h', List.length_cons] at h1 h3 h4
    simp only at hr
    omega

end

/-- Reads a whole data text: one value with blanks around it. -/
def read? (cs : List Char) : Option Source :=
  match readValue cs with
  | some ⟨(v, rest), _⟩ => if (skipGap rest).isEmpty then some v else none
  | none => none

end Source

end OperationGate.Json
