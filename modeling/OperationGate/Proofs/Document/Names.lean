import OperationGate.Document.Parser
import OperationGate.Operation.Kind
import OperationGate.Proofs.Client.Endpoint
import OperationGate.Proofs.Text.Parts
import OperationGate.Proofs.Text.Utf8

/-!
# Names in documents

The names of a document are a letter or an underscore, and letters, digits and underscores after it:
names are lexed so (`Token.isName_of_lex`), and operations take their names from tokens
(`Document.isName_of_read?`). The names of types that are made of them hold letters, digits and
underscores only: `isNameRest_resultTypeName`, `isNameRest_variablesTypeName`.
-/

namespace OperationGate

namespace Token

/-! ## Tokens -/

/-- A text that starts like a number is no name. -/
lemma ofNumber?_ne_name (cs : List Char) (n : String) : ofNumber? cs ≠ some (.name n) := by
  unfold ofNumber?
  grind

/-- A token in front of others is a name as it is, if it is one. -/
lemma isName_of_map_cons {t : Token} {x : Option (List Token)} {ts : List Token}
    (h : x.map (t :: ·) = some ts) (ht : ∀ n, t = .name n → IsName n)
    (ih : ∀ {ts}, x = some ts → ∀ n, .name n ∈ ts → IsName n) : ∀ n, .name n ∈ ts → IsName n := by
  obtain ⟨rest, hrest, rfl⟩ := Option.map_eq_some_iff.1 h
  intro n hn
  rcases List.mem_cons.1 hn with hn | hn
  · exact ht n hn.symm
  · exact ih hrest n hn

/-- The names among the tokens of a text. -/
theorem isName_of_lex {cs : List Char} {ts : List Token} (h : lex cs = some ts) :
    ∀ n, .name n ∈ ts → IsName n := by
  fun_induction lex cs generalizing ts with
  | case1 => cases h; simp
  | case2 _ ih | case9 _ _ _ _ _ _ _ ih => exact ih h
  | case3 _ ih | case4 _ _ _ _ ih | case6 _ _ _ _ _ _ _ ih | case10 _ _ _ _ _ _ _ _ ih =>
    exact isName_of_map_cons h (by simp) ih
  | case11 c rest _ _ _ _ _ _ hstart ih =>
    refine isName_of_map_cons h ?_ ih
    rintro n hn
    cases hn
    exact ⟨c, rest.takeWhile isNameRest, String.toList_ofList, hstart,
      fun d hd => List.mem_takeWhile_imp hd⟩
  | case12 c rest _ _ _ _ _ _ _ _ t ht ih =>
    refine isName_of_map_cons h ?_ ih
    rintro n rfl
    exact absurd ht (ofNumber?_ne_name _ n)
  | case5 | case7 | case8 | case13 | case14 => cases h

lemma isName_of_ofText? {s : String} {ts : List Token} (h : ofText? s = some ts) :
    ∀ n, .name n ∈ ts → IsName n := by
  obtain ⟨ts', hlex, hnest⟩ := Option.bind_eq_some_iff.1 h
  split at hnest
  next =>
    cases hnest
    exact isName_of_lex hlex
  next => cases hnest

end Token

/-! ## Grammars -/

namespace Grammar

variable {α β : Type} {ts : List Token}

/-- Tells that a construct is read at the front of a token list, with the tokens behind it. -/
def Reads (g : Grammar α) (ts : List Token) (a : α) (r : List Token) : Prop :=
  ∃ h, g ts = some ⟨(a, r), h⟩

lemma Reads.suffix {g : Grammar α} {a : α} {r : List Token} (h : Reads g ts a r) : r <:+ ts :=
  h.1

lemma reads_bind {p : Grammar α} {f : α → Grammar β} {b : β} {r : List Token} :
    Reads (p >>= f) ts b r ↔ ∃ a r', Reads p ts a r' ∧ Reads (f a) r' b r := by
  constructor
  · rintro ⟨_, h⟩
    simp only [bind] at h
    split at h
    next => cases h
    next a r' h₁ hp =>
      split at h
      next => cases h
      next b' r'' h₂ hf =>
        cases h
        exact ⟨a, r', ⟨h₁, hp⟩, h₂, hf⟩
  · rintro ⟨a, r', ⟨h₁, hp⟩, h₂, hf⟩
    refine ⟨h₂.trans h₁, ?_⟩
    simp only [bind, hp, hf]

lemma reads_pure {a b : α} {r : List Token} : Reads (pure a) ts b r ↔ b = a ∧ r = ts := by
  constructor
  · rintro ⟨_, h⟩
    cases h
    exact ⟨rfl, rfl⟩
  · rintro ⟨rfl, rfl⟩
    exact ⟨_, rfl⟩

lemma reads_map {f : α → β} {g : Grammar α} {b : β} {r : List Token} :
    Reads (f <$> g) ts b r ↔ ∃ a, Reads g ts a r ∧ f a = b := by
  have hbind : f <$> g = g >>= fun a => pure (f a) := rfl
  simp only [hbind, reads_bind, reads_pure]
  constructor
  · rintro ⟨a, _, ha, rfl, rfl⟩
    exact ⟨a, ha, rfl⟩
  · rintro ⟨a, ha, rfl⟩
    exact ⟨a, r, ha, rfl, rfl⟩

lemma reads_peek {t : Option Token} {r : List Token} :
    Reads peek ts t r ↔ t = ts.head? ∧ r = ts := by
  constructor
  · rintro ⟨_, h⟩
    cases h
    exact ⟨rfl, rfl⟩
  · rintro ⟨rfl, rfl⟩
    exact ⟨_, rfl⟩

lemma reads_name {n : String} {r : List Token} : Reads name ts n r ↔ ts = .name n :: r := by
  constructor
  · rintro ⟨_, h⟩
    unfold name at h
    split at h
    next => cases h; rfl
    next => cases h
  · rintro rfl
    exact ⟨_, rfl⟩

lemma not_reads_fail {a : α} {r : List Token} : ¬Reads fail ts a r :=
  fun ⟨_, h⟩ => nomatch h

/-- Tells what holds of everything that a grammar reads. -/
def Yields (g : Grammar α) (P : α → Prop) : Prop :=
  ∀ ts a r, Reads g ts a r → P a

lemma Yields.bind {p : Grammar α} {f : α → Grammar β} {P : β → Prop} (h : ∀ a, Yields (f a) P) :
    Yields (p >>= f) P := by
  intro ts b r hb
  obtain ⟨a, r', -, hb⟩ := reads_bind.1 hb
  exact h a r' b r hb

lemma yields_pure {P : α → Prop} {a : α} (h : P a) : Yields (pure a) P := by
  intro ts b r hb
  obtain ⟨rfl, -⟩ := reads_pure.1 hb
  exact h

lemma yields_fail {P : α → Prop} : Yields fail P :=
  fun _ _ _ h => absurd h not_reads_fail

/-- What is read up to the end is read at one of the places before it. -/
lemma exists_reads_of_mem_toEnd {item : Grammar α} {as : List α} (h : toEnd item ts = some as)
    {a : α} (ha : a ∈ as) : ∃ ts' r, ts' <:+ ts ∧ Reads item ts' a r := by
  fun_induction toEnd item ts generalizing as with
  | case1 => cases h
  | case2 ts b r hr hitem =>
    cases h
    exact ⟨ts, r, List.suffix_rfl, hr, List.mem_singleton.1 ha ▸ hitem⟩
  | case3 ts b r hr hitem _ _ ih =>
    obtain ⟨bs, hbs, rfl⟩ := Option.map_eq_some_iff.1 h
    rcases List.mem_cons.1 ha with rfl | ha
    · exact ⟨ts, r, List.suffix_rfl, hr, hitem⟩
    · obtain ⟨ts', r', hts', hread⟩ := ih hbs ha
      exact ⟨ts', r', hts'.trans hr, hread⟩
  | case4 => cases h

/-- An item of a list up to a closing character is read at one of the places before the list
ends. -/
lemma exists_reads_of_mem_itemsUntil {close : Char} {item : Grammar α} {as : List α}
    {r : List Token} (h : Reads (itemsUntil close item) ts as r) {a : α} (ha : a ∈ as) :
    ∃ ts' r', ts' <:+ ts ∧ Reads item ts' a r' := by
  obtain ⟨_, h⟩ := h
  fun_induction itemsUntil close item ts generalizing as r with
  | case1 => cases h; cases ha
  | case2 => cases h
  | case3 => cases h
  | case4 ts _ b r' hr' hitem _ bs r'' hr'' hrest ih =>
    cases h
    rcases List.mem_cons.1 ha with rfl | ha
    · exact ⟨ts, r', List.suffix_rfl, hr', hitem⟩
    · obtain ⟨ts', r₁, hts', hread⟩ := ih ha hr'' hrest
      exact ⟨ts', r₁, hts'.trans hr', hread⟩
  | case5 => cases h

/-- So is an item of a block that may be missing. -/
lemma exists_reads_of_mem_optionalBlock {left right : Char} {item : Grammar α} {as : List α}
    {r : List Token} (h : Reads (optionalBlock left right item) ts as r) {a : α} (ha : a ∈ as) :
    ∃ ts' r', ts' <:+ ts ∧ Reads item ts' a r' := by
  obtain ⟨block, _, hblock, h⟩ := reads_bind.1 h
  obtain rfl : block = some as := by
    split at h
    next =>
      obtain ⟨rfl, -⟩ := reads_pure.1 h
      cases ha
    next => exact absurd h not_reads_fail
    next => rw [(reads_pure.1 h).1]
  obtain ⟨_, _, hpeek, hnext⟩ := reads_bind.1 hblock
  split at hnext
  · obtain ⟨_, henclosed, hsame⟩ := reads_map.1 hnext
    cases hsame
    obtain ⟨_, _, hopen, hitems⟩ := reads_bind.1 henclosed
    obtain ⟨ts', r', hsuffix, hread⟩ := exists_reads_of_mem_itemsUntil hitems ha
    exact ⟨ts', r', hsuffix.trans (hopen.suffix.trans hpeek.suffix), hread⟩
  · cases (reads_pure.1 hnext).1

end Grammar

/-! ## Operations -/

namespace Document

open Grammar

variable {ts r : List Token}

/-- An operation has its name from a token, and its selections from a block. -/
lemma spec_of_reads_operation {kind : OperationKind} {op : Operation}
    (h : Reads (Parser.operation kind) ts op r) :
    (∀ n, op.name = some n → .name n ∈ ts) ∧ ∃ ts', ts' <:+ ts ∧
      Reads Parser.block ts' op.selections r := by
  -- What follows the name does not change it.
  have hrest : ∀ {name? ts'}, Reads (do
      let parameters ← optionalBlock '(' ')' Parser.declaredVariable
      let ds ← Parser.directives
      return (⟨kind, name?, parameters, ds, ← Parser.block⟩ : Operation)) ts' op r →
      op.name = name? ∧ ∃ ts'', ts'' <:+ ts' ∧ Reads Parser.block ts'' op.selections r := by
    intro name? ts' h
    obtain ⟨_, _, hparameters, h⟩ := reads_bind.1 h
    obtain ⟨_, _, hdirectives, h⟩ := reads_bind.1 h
    obtain ⟨_, _, hblock, h⟩ := reads_bind.1 h
    obtain ⟨rfl, rfl⟩ := reads_pure.1 h
    exact ⟨rfl, _, hdirectives.suffix.trans hparameters.suffix, hblock⟩
  obtain ⟨_, _, hpeek, h⟩ := reads_bind.1 h
  obtain ⟨rfl, rfl⟩ := reads_peek.1 hpeek
  simp only at h
  split at h
  next m _ =>
    obtain ⟨name?, _, hname, h⟩ := reads_bind.1 h
    obtain ⟨hsame, ts', hts', hblock⟩ := hrest h
    obtain ⟨m, hm, rfl⟩ := reads_map.1 hname
    refine ⟨fun n hn => ?_, ts', hts'.trans hname.suffix, hblock⟩
    rw [reads_name.1 hm, ← Option.some.inj (hn.symm.trans hsame)]
    exact List.mem_cons_self
  next =>
    obtain ⟨name?, _, hname, h⟩ := reads_bind.1 h
    obtain ⟨hsame, ts', hts', hblock⟩ := hrest h
    obtain ⟨rfl, -⟩ := reads_pure.1 hname
    refine ⟨fun n hn => ?_, ts', hts'.trans hname.suffix, hblock⟩
    cases hn.symm.trans hsame

/-- A definition is a block, or what is read after the word for it. -/
lemma cases_of_reads_definition {d : Definition} (h : Reads Parser.definition ts d r) :
    (∃ ns, d = .bare ns ∧ Reads Parser.block ts ns r) ∨
      (∃ kind op rest, d = .operation op ∧ rest <:+ ts ∧ Reads (Parser.operation kind) rest op r) ∨
        ∃ f rest, d = .fragment f ∧ rest <:+ ts ∧ Reads Parser.fragment rest f r := by
  obtain ⟨_, _, hpeek, h⟩ := reads_bind.1 h
  obtain ⟨rfl, rfl⟩ := reads_peek.1 hpeek
  split at h
  next =>
    obtain ⟨_, rest, hword, h⟩ := reads_bind.1 h
    split at h
    next kind _ =>
      obtain ⟨op, _, hread, h⟩ := reads_bind.1 h
      obtain ⟨rfl, rfl⟩ := reads_pure.1 h
      exact .inr (.inl ⟨kind, op, rest, rfl, hword.suffix, hread⟩)
    next =>
      split at h
      next =>
        obtain ⟨f, _, hread, h⟩ := reads_bind.1 h
        obtain ⟨rfl, rfl⟩ := reads_pure.1 h
        exact .inr (.inr ⟨f, rest, rfl, hword.suffix, hread⟩)
      next => exact absurd h not_reads_fail
  next =>
    obtain ⟨ns, _, hread, h⟩ := reads_bind.1 h
    obtain ⟨rfl, rfl⟩ := reads_pure.1 h
    exact .inl ⟨ns, rfl, hread⟩

/-- The operations of a document have names that are names. -/
theorem isName_of_read? {s : String} {definitions : List Definition}
    (h : read? s = some definitions) {op : Operation} (hop : .operation op ∈ definitions)
    {n : String} (hn : op.name = some n) : IsName n := by
  obtain ⟨ts, hts, hread⟩ := Option.bind_eq_some_iff.1 h
  obtain ⟨ts', r, hsuffix, hop⟩ := exists_reads_of_mem_toEnd hread hop
  refine Token.isName_of_ofText? hts n (hsuffix.subset ?_)
  rcases cases_of_reads_definition hop with ⟨_, he, -⟩ | ⟨kind, _, rest, he, hrest,
    hop⟩ | ⟨_, _, he, -⟩
  · cases he
  · cases he
    exact hrest.subset ((spec_of_reads_operation hop).1 n hn)
  · cases he

/-- So do its fragments. -/
lemma isName_of_mem_fragment {s : String} {definitions : List Definition}
    (h : read? s = some definitions) {f : Fragment} (hf : .fragment f ∈ definitions) :
    IsName f.name := by
  obtain ⟨ts, hts, hread⟩ := Option.bind_eq_some_iff.1 h
  obtain ⟨ts', r, hsuffix, hf⟩ := exists_reads_of_mem_toEnd hread hf
  refine Token.isName_of_ofText? hts _ (hsuffix.subset ?_)
  rcases cases_of_reads_definition hf with ⟨_, he, -⟩ | ⟨_, _, _, he, -⟩ | ⟨f, rest, he, hrest, hf⟩
  · cases he
  · cases he
  · cases he
    obtain ⟨n, _, hname, hf⟩ := reads_bind.1 hf
    have hsame : f.name = n := by
      refine (?_ : Yields _ fun f : Fragment => f.name = n) _ _ _ hf
      exact .bind fun _ => .bind fun _ => .bind fun _ => .bind fun _ => yields_pure rfl
    rw [hsame]
    refine hrest.subset ?_
    rw [reads_name.1 hname]
    exact List.mem_cons_self

end Document

/-! ## Names of types -/

section TypeNames

open Text Token

/-- The words of a text are made of its characters. -/
lemma mem_of_mem_caseWords {word cs w : List Char} {mode : CaseMode} {c : Char}
    (hw : w ∈ caseWords word mode cs) (hc : c ∈ w) : c ∈ word ∨ c ∈ cs := by
  fun_induction caseWords word mode cs <;> grind

lemma toNat_lt_of_isNameRest {c : Char} (h : isNameRest c) : c.toNat < 128 := by
  simp only [isNameRest, Bool.or_eq_true, decide_eq_true_eq] at h
  rcases h with h | rfl
  · exact toNat_lt_of_isAlphanum h
  · decide

lemma isNameRest_lowercase {c : Char} (h : isNameRest c) : ∀ d ∈ lowercase c, isNameRest d := by
  have hc := toNat_lt_of_isNameRest h
  rw [lowercase, if_pos hc]
  simpa using forall_ascii (p := fun c => isNameRest c → isNameRest c.toLower) (by decide) hc h

lemma isNameRest_uppercase {c : Char} (h : isNameRest c) : ∀ d ∈ uppercase c, isNameRest d := by
  have hc := toNat_lt_of_isNameRest h
  rw [uppercase, if_pos hc]
  simpa using forall_ascii (p := fun c => isNameRest c → isNameRest c.toUpper) (by decide) hc h

lemma isNameRest_lowercaseWord {w : List Char} (h : ∀ c ∈ w, isNameRest c) :
    ∀ d ∈ lowercaseWord w, isNameRest d := by
  fun_induction lowercaseWord w with
  | case1 => exact h
  | case2 => exact absurd (h 'Σ' List.mem_cons_self) (by decide)
  | case3 c rest _ ih =>
    rw [List.forall_mem_cons] at h
    rw [List.forall_mem_append]
    exact ⟨isNameRest_lowercase h.1, ih h.2⟩

lemma isNameRest_capitalized {w : List Char} (h : ∀ c ∈ w, isNameRest c) :
    ∀ d ∈ capitalized w, isNameRest d := by
  cases w with
  | nil => exact h
  | cons c rest =>
    rw [List.forall_mem_cons] at h
    rw [capitalized, List.forall_mem_append]
    exact ⟨isNameRest_uppercase h.1, isNameRest_lowercaseWord h.2⟩

/-- The Pascal-case form of a text is made of what continues names, if the text is. -/
lemma isNameRest_pascalCase {name : String} (h : ∀ c ∈ name.toList, isNameRest c) :
    ∀ c ∈ (pascalCase name).toList, isNameRest c := by
  rw [pascalCase, String.toList_ofList]
  intro c hc
  obtain ⟨w, hw, hc⟩ := List.mem_flatMap.1 hc
  obtain ⟨part, hpart, hw⟩ := List.mem_flatMap.1 hw
  refine isNameRest_capitalized (fun d hd => ?_) c hc
  have hd := (mem_of_mem_caseWords hw hd).resolve_left List.not_mem_nil
  exact h d (mem_of_mem_splitOnP hpart hd)

theorem isNameRest_resultTypeName {name : String} (h : IsName name) (kind : OperationKind) :
    ∀ c ∈ (resultTypeName name kind).toList, isNameRest c := by
  rw [resultTypeName, String.toList_append, List.forall_mem_append]
  refine ⟨isNameRest_pascalCase h.isNameRest, ?_⟩
  cases kind <;> exact List.all_eq_true.1 (by decide)

theorem isNameRest_variablesTypeName {name : String} (h : IsName name) (kind : OperationKind) :
    ∀ c ∈ (variablesTypeName name kind).toList, isNameRest c := by
  rw [variablesTypeName, String.toList_append, List.forall_mem_append]
  exact ⟨isNameRest_resultTypeName h kind, List.all_eq_true.1 (by decide)⟩

lemma isNameRest_fragmentTypeName {name : String} (h : IsName name) :
    ∀ c ∈ (fragmentTypeName name).toList, isNameRest c := by
  rw [fragmentTypeName, String.toList_append, List.forall_mem_append]
  exact ⟨isNameRest_pascalCase h.isNameRest, List.all_eq_true.1 (by decide)⟩

end TypeNames

end OperationGate
