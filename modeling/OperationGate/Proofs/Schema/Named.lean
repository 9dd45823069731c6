import OperationGate.Proofs.Document.Names
import OperationGate.Proofs.Table
import OperationGate.Schema.Parser

/-!
# Types under their names

In a schema that is read from a text every type is found under its own name: `name_of_parse`.
Definitions put types there, and neither an extension nor the standard scalars change that. The name
is one of the text, or that of a standard scalar, so it is a letter or an underscore, and letters,
digits and underscores after it: `isName_of_parse`. The values of enums are names of the text,
whether a definition or an extension lists them: `isName_of_mem_enumValues`.
-/

namespace OperationGate.Schema

lemma name_typeOf (name : String) (description : Option String) (body : TypeBody) :
    (typeOf name description body).name = name := by
  cases body <;> rfl

lemma name_extended (t : SchemaType) (body : TypeBody) : (extended t body).name = t.name := by
  cases body <;> rfl

lemma types_ofDefinitions (ds : List SchemaDefinition) :
    (ofDefinitions ds).types = withScalars (extendedTypes ds (declaredTypes ds)) := by
  rw [ofDefinitions]
  cases declaredRoots? ds <;> rfl

/-- What holds of the types that are defined and of the standard scalars, and is kept by extensions,
holds of all types of a schema. -/
lemma every_ofDefinitions {R : String → SchemaType → Prop} {ds : List SchemaDefinition}
    (hdefined : ∀ n description body, .type n description body ∈ ds →
      R n (typeOf n description body))
    (hextended : ∀ n t body, .extension n body ∈ ds → R n t → R n (extended t body))
    (hstandard : ∀ n ∈ standardScalars, R n (.bare n .scalar none)) :
    (ofDefinitions ds).types.Every R := by
  have hdeclared : (declaredTypes ds).Every R := by
    refine List.foldlRecOn ds _ .empty fun types ht d hd => ?_
    split
    next => exact ht.insert (hdefined _ _ _ hd)
    next => exact ht
  have hall : (extendedTypes ds (declaredTypes ds)).Every R := by
    refine List.foldlRecOn ds _ hdeclared fun types ht d hd => ?_
    split
    next => exact ht.modify fun t => hextended _ t _ hd
    next => exact ht
  rw [types_ofDefinitions]
  exact List.foldlRecOn standardScalars _ hall fun _ ht n hn => ht.insertNew (hstandard n hn)

/-- The types of a schema that is read from a text are found under their names. -/
theorem name_of_parse {text : String} {s : Schema} (h : parse text = .ok s) (n : String)
    (t : SchemaType) (ht : s.get? n = some t) : t.name = n := by
  rw [parse] at h
  split at h
  next ds _ =>
    cases h
    exact every_ofDefinitions (R := fun n t => t.name = n) (fun _ _ _ _ => name_typeOf _ _ _)
      (fun _ t _ _ ht => (name_extended t _).trans ht) (fun _ _ => rfl) n t ht
  next => cases h

/-! ## Names as they are written -/

namespace Parser

open Grammar

variable {ts r : List Token}

/-- The body of a type has its name from a token. -/
lemma mem_of_reads_typeBody {word : String} {x : String × Bool × TypeBody}
    (h : Reads (typeBody word) ts x r) : .name x.1 ∈ ts := by
  -- Whatever the kind, a name is read first, and nothing after it changes it.
  have hname : ∀ {rest : String → Grammar (String × Bool × TypeBody)},
      (∀ n, Yields (rest n) fun x => x.1 = n) → Reads (name >>= rest) ts x r → .name x.1 ∈ ts := by
    intro rest hrest h
    obtain ⟨n, _, hn, h⟩ := reads_bind.1 h
    rw [reads_name.1 hn, hrest n _ _ _ h]
    exact List.mem_cons_self
  unfold typeBody at h
  split at h
  · exact hname (fun _ => .bind fun _ => yields_pure rfl) h
  · exact hname (fun _ => .bind fun _ => .bind fun _ => .bind fun _ => yields_pure rfl) h
  · exact hname (fun _ => .bind fun _ => .bind fun _ => .bind fun _ => yields_pure rfl) h
  · exact hname (fun _ => .bind fun _ => .bind fun _ => yields_pure rfl) h
  · exact hname (fun _ => .bind fun _ => .bind fun _ => yields_pure rfl) h
  · exact hname (fun _ => .bind fun _ => .bind fun _ => yields_pure rfl) h
  · exact absurd h not_reads_fail

/-- Values of enums have their names from tokens. -/
lemma mem_of_reads_enumValue {v : String} (h : Reads enumValue ts v r) : .name v ∈ ts := by
  obtain ⟨_, _, hdescription, h⟩ := reads_bind.1 h
  obtain ⟨n, _, hn, h⟩ := reads_bind.1 h
  have hv : Yields (Document.Parser.directives >>= fun _ => pure n) (· = n) :=
    .bind fun _ => yields_pure rfl
  rw [hv _ _ _ h]
  refine hdescription.suffix.subset ?_
  rw [reads_name.1 hn]
  exact List.mem_cons_self

/-- The values that a body of a type lists have their names from tokens. -/
lemma mem_of_reads_values {word : String} {x : String × Bool × TypeBody}
    (h : Reads (typeBody word) ts x r) {values : List String} (hvalues : x.2.2 = .enum values)
    {v : String} (hv : v ∈ values) : .name v ∈ ts := by
  -- All words but one are read as bodies that list no values.
  have hother : ∀ {g : Grammar (String × Bool × TypeBody)}, Reads g ts x r → ¬Yields g fun x =>
    x.2.2 ≠ .enum values :=
    fun h hg => hg _ _ _ h hvalues
  unfold typeBody at h
  split at h
  · exact absurd (.bind fun _ => .bind fun _ => yields_pure (by simp)) (hother h)
  · exact absurd (.bind fun _ => .bind fun _ => .bind fun _ => .bind fun _ => yields_pure (by simp))
      (hother h)
  · exact absurd (.bind fun _ => .bind fun _ => .bind fun _ => .bind fun _ => yields_pure (by simp))
      (hother h)
  · exact absurd (.bind fun _ => .bind fun _ => .bind fun _ => yields_pure (by simp)) (hother h)
  · obtain ⟨_, _, hname, h⟩ := reads_bind.1 h
    obtain ⟨_, _, hdirectives, h⟩ := reads_bind.1 h
    obtain ⟨vs, _, hblock, h⟩ := reads_bind.1 h
    obtain ⟨rfl, -⟩ := reads_pure.1 h
    cases hvalues
    obtain ⟨ts', r', hsuffix, hread⟩ := exists_reads_of_mem_optionalBlock hblock hv
    exact (hsuffix.trans (hdirectives.suffix.trans hname.suffix)).subset
      (mem_of_reads_enumValue hread)
  · exact absurd (.bind fun _ => .bind fun _ => .bind fun _ => yields_pure (by simp)) (hother h)
  · exact absurd h not_reads_fail

/-- The type that a definition defines or extends, and what it lists for it. -/
def body? : SchemaDefinition → Option (String × TypeBody)
  | .type n _ body => some (n, body)
  | .extension n body => some (n, body)
  | _ => none

lemma directive_yields : Yields directive (body? · = none) := by
  refine .bind fun _ => .bind fun n => .bind fun _ => .bind fun _ => .bind fun _ => .bind fun bar =>
    .bind fun next => ?_
  split
  · exact .bind fun _ => yields_pure rfl
  · split
    · exact yields_fail
    · exact yields_pure rfl

lemma roots_yields : Yields roots (body? · = none) := by
  refine .bind fun _ => .bind fun entries => ?_
  dsimp only
  split
  · exact yields_fail
  · exact yields_pure rfl

variable {n : String} {description : Option String} {body : TypeBody} {d : SchemaDefinition}

/-- What is listed for a type is read after the word for its kind. -/
lemma exists_reads_typeBody (h : Reads definition ts d r) (hd : body? d = some (n, body)) :
    ∃ word ts' directed r', ts' <:+ ts ∧ Reads (typeBody word) ts' (n, directed, body) r' := by
  obtain ⟨_, _, hdescription, h⟩ := reads_bind.1 h
  obtain ⟨word, _, hword, h⟩ := reads_bind.1 h
  have hrest := hword.suffix.trans hdescription.suffix
  split at h
  · simp [directive_yields _ _ _ h] at hd
  · split at h
    · split at h
      · exact absurd h not_reads_fail
      · simp [roots_yields _ _ _ h] at hd
    · split at h
      · split at h
        · exact absurd h not_reads_fail
        · obtain ⟨word, _, hword, h⟩ := reads_bind.1 h
          obtain ⟨x, _, hbody, h⟩ := reads_bind.1 h
          obtain ⟨n', directed, body'⟩ := x
          dsimp only at h
          split at h
          · obtain ⟨rfl, -⟩ := reads_pure.1 h
            cases hd
            exact ⟨word, _, directed, _, hword.suffix.trans hrest, hbody⟩
          · exact absurd h not_reads_fail
      · obtain ⟨x, _, hbody, h⟩ := reads_bind.1 h
        obtain ⟨rfl, -⟩ := reads_pure.1 h
        cases hd
        exact ⟨word, _, _, _, hrest, hbody⟩

lemma exists_typeBody_of_read? {text : String} {ds : List SchemaDefinition}
    (h : read? text = some ds) (hmem : d ∈ ds) (hd : body? d = some (n, body)) :
    ∃ ts word directed r, (∀ m, .name m ∈ ts → IsName m) ∧
      Reads (typeBody word) ts (n, directed, body) r := by
  obtain ⟨ts, hts, hread⟩ := Option.bind_eq_some_iff.1 h
  obtain ⟨ts', r, hsuffix, hread⟩ := exists_reads_of_mem_toEnd hread hmem
  obtain ⟨word, ts'', directed, r', hsuffix', hbody⟩ := exists_reads_typeBody hread hd
  have hrest := hsuffix'.trans hsuffix
  exact ⟨ts'', word, directed, r', fun m hm => Token.isName_of_ofText? hts m (hrest.subset hm),
    hbody⟩

lemma isName_of_read? {text : String} {ds : List SchemaDefinition} (h : read? text = some ds)
    (hd : .type n description body ∈ ds) : IsName n := by
  obtain ⟨ts, word, directed, r, hnames, hbody⟩ := exists_typeBody_of_read? h hd rfl
  exact hnames n (mem_of_reads_typeBody hbody)

lemma isName_of_mem_values {text : String} {ds : List SchemaDefinition} (h : read? text = some ds)
    (hmem : d ∈ ds) {values : List String} (hd : body? d = some (n, .enum values)) {v : String}
    (hv : v ∈ values) : IsName v := by
  obtain ⟨ts, word, directed, r, hnames, hbody⟩ := exists_typeBody_of_read? h hmem hd
  exact hnames v (mem_of_reads_values hbody rfl hv)

end Parser

/-- The types of a schema that is read from a text have names that are names. -/
theorem isName_of_parse {text : String} {s : Schema} (h : parse text = .ok s) {n : String}
    {t : SchemaType} (ht : s.get? n = some t) : IsName n := by
  rw [parse] at h
  split at h
  next ds hread =>
    cases h
    have hstandard : ∀ n ∈ standardScalars, IsName n := by decide
    exact every_ofDefinitions (R := fun n _ => IsName n)
      (fun _ _ _ hd => Parser.isName_of_read? hread hd) (fun _ _ _ _ hn => hn) hstandard n t ht
  next => cases h

/-- The values of the enums of a schema that is read from a text are names. -/
theorem isName_of_mem_enumValues {text : String} {s : Schema} (h : parse text = .ok s) {n : String}
    {t : SchemaType} (ht : s.get? n = some t) : ∀ v ∈ t.enumValues, IsName v := by
  rw [parse] at h
  split at h
  next ds hread =>
    cases h
    refine every_ofDefinitions (R := fun _ t => ∀ v ∈ t.enumValues, IsName v) ?_ ?_ ?_ n t ht
    · intro n description body hd v hv
      cases body with
      | enum values => exact Parser.isName_of_mem_values hread hd rfl hv
      | _ => cases hv
    · intro n t body hd hlisted v hv
      cases body with
      | enum values =>
        rcases List.mem_append.1 hv with hv | hv
        · exact hlisted v hv
        · exact Parser.isName_of_mem_values hread hd rfl hv
      | _ => exact hlisted v hv
    · intro n _ v hv
      cases hv
  next => cases h

end OperationGate.Schema
