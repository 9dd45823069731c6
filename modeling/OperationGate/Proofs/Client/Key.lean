import OperationGate.Client.Cache
import OperationGate.Proofs.Json.MemberOrder

/-!
# Keys of calls

The name of a call may hold any characters, and yet its end is found in the key: what follows a
colon in the text of a value is never the whole text of a value (`Json.write_ne_append_colon`). This
is seen by following how deep in lists and records, and whether in a string, each place of a text
is. So two keys of one place are the same only if the kinds, the names and the texts of the
variables are: `cacheKey_eq_iff`. The text of variables is that of their canonical form, which tells
them apart up to the order of members: `cacheKey_eq_iff_sameUpToOrder`.
-/

namespace OperationGate

namespace Json

/-- Where a place of a text is: how many lists and records it is inside of, and whether it is in a
string, or right after a backslash there. -/
inductive Place where
  | plain (depth : Nat)
  | quoted (depth : Nat)
  | escaped (depth : Nat)
  deriving DecidableEq

namespace Place

/-- The place after a character, unless no text has the character there. -/
def next : Place → Char → Option Place
  | .plain d, c =>
    if c = '"' then some (.quoted d)
    else if c = '[' ∨ c = '\x7b' then some (.plain (d + 1))
    else if c = ']' ∨ c = '\x7d' then if d = 0 then none else some (.plain (d - 1))
    else if c = '\\' ∨ c = ':' ∧ d = 0 then none
    else some (.plain d)
  | .quoted d, c =>
    if c = '"' then some (.plain d) else if c = '\\' then some (.escaped d) else some (.quoted d)
  | .escaped d, c => if c = ':' then none else some (.quoted d)

/-- The place after several characters. -/
def after (p : Place) (cs : List Char) : Option Place :=
  cs.foldlM next p

variable {p q : Place} {d : Nat} {c : Char} {cs ds : List Char}

@[simp]
lemma after_nil : p.after [] = some p := rfl

lemma after_cons : p.after (c :: cs) = (p.next c).bind (·.after cs) := rfl

lemma after_append : p.after (cs ++ ds) = (p.after cs).bind (·.after ds) := by
  rw [after, List.foldlM_append]
  rfl

/-- Tells that a character means nothing but itself outside of strings. -/
def isNeutral (c : Char) : Bool :=
  !(['"', '\\', '[', ']', '\x7b', '\x7d', ':'].contains c)

lemma after_of_isNeutral (h : ∀ c ∈ cs, isNeutral c) : (plain d).after cs = some (.plain d) := by
  induction cs with
  | nil => rfl
  | cons c cs ih =>
    rw [List.forall_mem_cons] at h
    have hc := h.1
    simp only [isNeutral, Bool.not_eq_true', List.contains_eq_mem,
      decide_eq_false_iff_not, List.mem_cons, List.not_mem_nil, or_false, not_or] at hc
    rw [after_cons, next]
    simp [hc, ih h.2]

lemma after_quoted (h : ∀ c ∈ cs, c ≠ '"' ∧ c ≠ '\\') : (quoted d).after cs = some (.quoted d) := by
  induction cs with
  | nil => rfl
  | cons c cs ih =>
    rw [List.forall_mem_cons] at h
    rw [after_cons, next, if_neg h.1.1, if_neg h.1.2, Option.bind_some, ih h.2]

/-- Inside a string, the characters that stand for one character stay there. -/
lemma after_escape (c : Char) : (quoted d).after (escape c) = some (.quoted d) := by
  unfold escape
  split
  · rfl
  split
  · rfl
  split
  next hquote hslash _ => exact after_quoted (by simp [hquote, hslash])
  next hlow =>
    iterate 5
      split
      · rfl
    have hdigit : ∀ n < 16, hexDigit n ≠ '"' ∧ hexDigit n ≠ '\\' := by decide
    have hhigh := hdigit (c.toNat / 16) (by omega)
    have hrest := hdigit (c.toNat % 16) (by omega)
    have hdigits : (quoted d).after ['0', '0', hexDigit (c.toNat / 16), hexDigit (c.toNat % 16)] =
        some (.quoted d) := after_quoted (by simp [hhigh, hrest])
    exact hdigits

/-- A string ends outside of strings, as deep as it began. -/
lemma after_writeText (s : String) : (plain d).after (writeText s) = some (.plain d) := by
  have hbody : ∀ cs : List Char, (quoted d).after (cs.flatMap escape) = some (.quoted d) := by
    intro cs
    induction cs with
    | nil => rfl
    | cons c cs ih => rw [List.flatMap_cons, after_append, after_escape, Option.bind_some, ih]
  have hopen : (plain d).next '"' = some (.quoted d) := rfl
  rw [writeText, List.cons_append, after_cons, hopen, Option.bind_some, after_append, hbody]
  rfl

lemma isNeutral_of_isDigit (h : c.isDigit) : isNeutral c := by
  simp only [isNeutral, Bool.not_eq_true', List.contains_eq_mem,
    decide_eq_false_iff_not, List.mem_cons, List.not_mem_nil, or_false]
  rintro (rfl | rfl | rfl | rfl | rfl | rfl | rfl) <;> revert h <;> decide

/-- The characters of a number as it is written mean nothing but themselves. -/
lemma isNeutral_of_isSound {n : NumberSource} (hn : n.IsSound) (h : c ∈ n.write) : isNeutral c := by
  rw [NumberSource.write, List.mem_append, List.mem_append, List.mem_append] at h
  rcases h with ((h | h) | h) | h
  · have hsign : c = '-' := by split at h <;> simp_all
    exact hsign ▸ by decide
  · exact isNeutral_of_isDigit (hn.whole.isDigit c h)
  · cases hfraction : n.fraction with
    | none => simp [hfraction, NumberSource.fractionText] at h
    | some ds =>
      rw [hfraction] at h
      rcases List.mem_cons.1 h with rfl | h
      · decide
      · exact isNeutral_of_isDigit ((hn.fraction ds hfraction).isDigit c h)
  · cases hexponent : n.exponent with
    | none => simp [hexponent, NumberSource.exponentText] at h
    | some e =>
      rw [hexponent] at h
      rcases List.mem_cons.1 h with rfl | h
      · decide
      · rcases List.mem_cons.1 h with rfl | h
        · split <;> decide
        · exact isNeutral_of_isDigit ((hn.exponent e hexponent).isDigit c h)

/-- The characters of a number mean nothing but themselves. -/
lemma isNeutral_of_mem_write {n : JsonNumber} (h : c ∈ n.write) : isNeutral c := by
  by_cases hfinite : n.IsFinite
  · rw [← NumberSource.write_ofNumber hfinite] at h
    exact isNeutral_of_isSound (NumberSource.isSound_ofNumber n) h
  · simp only [JsonNumber.IsFinite, not_forall, Decidable.not_not] at hfinite
    obtain ⟨negative, rfl⟩ := hfinite
    cases negative <;> simp only [JsonNumber.write, NumberLayout.text, if_true,
      Bool.false_eq_true, if_false, List.nil_append, List.cons_append, List.mem_cons,
      List.not_mem_nil, or_false] at h
    · rcases h with rfl | rfl | rfl <;> decide
    · rcases h with rfl | rfl | rfl | rfl <;> decide

/-- Items end where they began if each of them does. -/
lemma after_writeItems {items : List Json}
    (h : ∀ v ∈ items, ∀ d, (plain d).after v.write = some (.plain d)) :
    (plain d).after (writeItems items) = some (.plain d) := by
  induction items with
  | nil => rfl
  | cons v rest ih =>
    rw [List.forall_mem_cons] at h
    cases rest with
    | nil => rw [writeItems, h.1]
    | cons w rest =>
      have hcomma : (plain d).next ',' = some (.plain d) := rfl
      rw [writeItems, after_append, h.1, Option.bind_some, after_cons, hcomma,
        Option.bind_some, ih h.2]
      exact List.cons_ne_nil _ _

/-- Members end where they began if the values in them do. -/
lemma after_writeMembers {members : List (String × Json)}
    (h : ∀ m ∈ members, ∀ d, (plain d).after m.2.write = some (.plain d)) :
    (plain (d + 1)).after (writeMembers members) = some (.plain (d + 1)) := by
  have hmember : ∀ m : String × Json, (∀ d, (plain d).after m.2.write = some (.plain d)) →
      (plain (d + 1)).after (writeText m.1 ++ ':' :: m.2.write) = some (.plain (d + 1)) := by
    intro m hm
    have hcolon : (plain (d + 1)).next ':' = some (.plain (d + 1)) := by simp [next]
    rw [after_append, after_writeText, Option.bind_some, after_cons, hcolon, Option.bind_some, hm]
  induction members with
  | nil => rfl
  | cons m rest ih =>
    obtain ⟨k, v⟩ := m
    rw [List.forall_mem_cons] at h
    cases rest with
    | nil => rw [writeMembers, hmember (k, v) h.1]
    | cons w rest =>
      have hcomma : (plain (d + 1)).next ',' = some (.plain (d + 1)) := by simp [next]
      rw [writeMembers, after_append, hmember (k, v) h.1, Option.bind_some, after_cons, hcomma,
        Option.bind_some, ih h.2]
      exact List.cons_ne_nil _ _

/-- The text of a value ends outside of strings, as deep as it began. -/
lemma after_write (v : Json) (d : Nat) : (plain d).after v.write = some (.plain d) := by
  induction v using inductionOn generalizing d with
  | null => rfl
  | bool b => cases b <;> rfl
  | number n => exact after_of_isNeutral fun c hc => isNeutral_of_mem_write hc
  | text s => exact after_writeText s
  | list items ih =>
    have hopen : (plain d).next '[' = some (.plain (d + 1)) := by simp [next]
    have hclose : (plain (d + 1)).after [']'] = some (.plain d) := by simp [after_cons, next]
    rw [write, List.cons_append, after_cons, hopen, Option.bind_some, after_append,
      after_writeItems ih, Option.bind_some, hclose]
  | record members ih =>
    have hopen : (plain d).next '\x7b' = some (.plain (d + 1)) := by simp [next]
    have hclose : (plain (d + 1)).after ['\x7d'] = some (.plain d) := by simp [after_cons, next]
    rw [write, List.cons_append, after_cons, hopen, Option.bind_some, after_append,
      after_writeMembers ih, Option.bind_some, hclose]

/-! ## Places that are told apart -/

/-- Tells that one of two places is in a string and the other is not. -/
def Opposed : Place → Place → Prop
  | .plain _, .quoted _ => True
  | .quoted _, .plain _ => True
  | _, _ => False

/-- Outside of strings there are no backslashes, and what does not open a string stays outside. -/
lemma exists_of_next_plain (h : c ≠ '"') (hp : (plain d).next c = some p) :
    c ≠ '\\' ∧ ∃ e, p = .plain e := by
  rw [Place.next, if_neg h] at hp
  split at hp
  next hopen => exact ⟨by rintro rfl; revert hopen; decide, _, (Option.some.inj hp).symm⟩
  next =>
    split at hp
    next hclose =>
      split at hp
      · cases hp
      · exact ⟨by rintro rfl; revert hclose; decide, _, (Option.some.inj hp).symm⟩
    next =>
      split at hp
      · cases hp
      · next hslash => exact ⟨fun hc => hslash (.inl hc), _, (Option.some.inj hp).symm⟩

lemma Opposed.next_of_plain {e : Nat} {p' q' : Place} (hp : (plain d).next c = some p')
    (hq : (quoted e).next c = some q') : Opposed p' q' ∧ Opposed q' p' := by
  by_cases hquote : c = '"'
  · subst hquote
    cases hp
    cases hq
    exact ⟨trivial, trivial⟩
  · obtain ⟨hslash, e', rfl⟩ := exists_of_next_plain hquote hp
    rw [Place.next, if_neg hquote, if_neg hslash] at hq
    cases hq
    exact ⟨trivial, trivial⟩

lemma Opposed.next {p' q' : Place} (h : Opposed p q) (hp : p.next c = some p')
    (hq : q.next c = some q') : Opposed p' q' := by
  cases p <;> cases q <;> try exact h.elim
  · exact (next_of_plain hp hq).1
  · exact (next_of_plain hq hp).2

/-- Where one text is in a string just where another is not, they do not end alike. -/
lemma Opposed.after {p' q' : Place} (h : Opposed p q) (hp : p.after cs = some p')
    (hq : q.after cs = some q') : Opposed p' q' := by
  induction cs generalizing p q with
  | nil =>
    cases hp
    cases hq
    exact h
  | cons c cs ih =>
    rw [after_cons, Option.bind_eq_some_iff] at hp hq
    obtain ⟨p₁, hp₁, hp⟩ := hp
    obtain ⟨q₁, hq₁, hq⟩ := hq
    exact ih (h.next hp₁ hq₁) hp hq

end Place

/-- What follows a colon in the text of a value is not the whole text of a value. -/
theorem write_ne_append_colon (v w : Json) (cs : List Char) : v.write ≠ cs ++ ':' :: w.write := by
  intro h
  have hv := Place.after_write v 0
  rw [h, Place.after_append, Option.bind_eq_some_iff] at hv
  obtain ⟨p, -, hp⟩ := hv
  rw [Place.after_cons, Option.bind_eq_some_iff] at hp
  obtain ⟨q, hcolon, hq⟩ := hp
  cases p with
  | plain d =>
    cases d with
    | zero => simp [Place.next] at hcolon
    | succ d =>
      obtain rfl : Place.plain (d + 1) = q := by simpa [Place.next] using hcolon
      rw [Place.after_write] at hq
      cases hq
  | quoted d =>
    obtain rfl : Place.quoted d = q := by simpa [Place.next] using hcolon
    have hopposed : Place.Opposed (.plain 0) (.quoted d) := trivial
    exact hopposed.after (Place.after_write w 0) hq
  | escaped d => simp [Place.next] at hcolon

end Json

/-- A name in front of a colon and the text of a value ends where it ends. -/
lemma eq_of_append_colon {cs ds : List Char} {v w : Json}
    (h : cs ++ ':' :: v.write = ds ++ ':' :: w.write) : cs = ds ∧ v.write = w.write := by
  have hnil : ∀ {es : List Char} {v w : Json}, ':' :: v.write = es ++ ':' :: w.write → es = [] := by
    intro es v w h
    cases es with
    | nil => rfl
    | cons e es => exact absurd (List.cons.inj h).2 (Json.write_ne_append_colon v w es)
  rcases List.append_eq_append_iff.1 h with ⟨es, rfl, hes⟩ | ⟨es, rfl, hes⟩
  · obtain rfl := hnil hes
    exact ⟨(List.append_nil cs).symm, (List.cons.inj hes).2⟩
  · obtain rfl := hnil hes
    exact ⟨List.append_nil ds, (List.cons.inj hes).2.symm⟩

/-- Keys of one place are the same just if the kinds, the names and the texts of the variables
are. -/
theorem cacheKey_eq_iff {space : String} {kind kind' : OperationKind} {name name' : String}
    {v v' : Json} :
    cacheKey space kind name v = cacheKey space kind' name' v' ↔
      kind = kind' ∧ name = name' ∧ v.canonical.compact = v'.canonical.compact := by
  constructor
  · intro h
    simp only [cacheKey, ← String.toList_inj, String.toList_append, Json.compact,
      String.toList_ofList] at h
    have hkinds : kind = kind' := by
      cases kind <;> cases kind' <;> simp [OperationKind.word] at h ⊢
    subst hkinds
    simp only [List.append_assoc, List.append_cancel_left_eq, String.reduceToList, List.cons_append,
      List.nil_append, List.cons.injEq, true_and] at h
    obtain ⟨hname, htext⟩ := eq_of_append_colon h
    exact ⟨rfl, String.toList_inj.1 hname, by rw [Json.compact, Json.compact, htext]⟩
  · rintro ⟨rfl, rfl, htext⟩
    rw [cacheKey, cacheKey, htext]

/-- Calls of one place have one key just if they are calls of the same operation with the same
variables, up to the order of members. -/
theorem cacheKey_eq_iff_sameUpToOrder {space : String} {kind kind' : OperationKind}
    {name name' : String} {v v' : Json} (hv : v.IsProper) (hv' : v'.IsProper) :
    cacheKey space kind name v = cacheKey space kind' name' v' ↔
    kind = kind' ∧ name = name' ∧ v.SameUpToOrder v' := by
  rw [cacheKey_eq_iff, Json.compact_canonical_eq_iff hv hv']

/-- Variables with a member that holds a record and a list. -/
def sampleVariables : Json :=
  .record
    [("z", .record
      [("b", .number (.double (.finite false 6755399441055744 (-52)))), ("a", .text "\":")]),
    ("a", .list [.null, .number (.integer (-1))])]

/-- The variables with the members of both records in the other order. -/
def turnedVariables : Json :=
  .record [("a", .list [.null, .number (.integer (-1))]),
    ("z", .record [("a", .text "\":"),
      ("b", .number (.double (.finite false 6755399441055744 (-52))))])]

lemma isProper_turnedVariables : turnedVariables.IsProper := by
  have hnumber : (JsonNumber.double (.finite false 6755399441055744 (-52))).IsNormal :=
    ⟨by decide, by decide, by decide, by decide⟩
  refine .record (by decide) ?_
  simp only [List.forall_mem_cons, List.not_mem_nil, false_imp_iff, implies_true, and_true]
  refine ⟨.list ?_, .record (by decide) ?_⟩
  · simp only [List.forall_mem_cons, List.not_mem_nil, false_imp_iff, implies_true, and_true]
    exact ⟨.null, .number trivial⟩
  · simp only [List.forall_mem_cons, List.not_mem_nil, false_imp_iff, implies_true, and_true]
    exact ⟨.text _, .number hnumber⟩

lemma sameUpToOrder_variables : turnedVariables.SameUpToOrder sampleVariables := by
  have hinner := Json.SameUpToOrder.permuted
    (.swap ("b", .number (.double (.finite false 6755399441055744 (-52)))) ("a", .text "\":") [])
  have houter := Json.SameUpToOrder.permuted (.swap ("z", .record [("a", .text "\":"),
    ("b", .number (.double (.finite false 6755399441055744 (-52))))])
      ("a", .list [.null, .number (.integer (-1))]) [])
  exact houter.trans (@Json.SameUpToOrder.member [] _ "z" _ _ hinner)

theorem cacheKey_eq_iff_sameUpToOrder_sample :
    sampleVariables.IsProper ∧ turnedVariables.IsProper ∧
      cacheKey "ns" .query "a:\x7b\x7d" sampleVariables =
      cacheKey "ns" .query "a:\x7b\x7d" turnedVariables ∧
      cacheKey "ns" .query "a:\x7b\x7d" sampleVariables ≠
      cacheKey "ns" .query "a" turnedVariables := by
  have hturned := isProper_turnedVariables
  have hsample := (sameUpToOrder_variables.spec hturned).1
  refine ⟨hsample, hturned, ?_, ?_⟩
  · exact (cacheKey_eq_iff_sameUpToOrder hsample hturned).2 ⟨rfl, rfl, sameUpToOrder_variables.symm⟩
  · intro h
    have hname := ((cacheKey_eq_iff_sameUpToOrder hsample hturned).1 h).2.1
    revert hname
    decide

end OperationGate
