import Mathlib.Data.List.Forall2
import OperationGate.CommandLine.Arguments
import OperationGate.Proofs.Text.Parts

/-!
# Groups of arguments

The words of a command line stand in groups: a flag with its value, whatever the value looks like,
or the flag for more notes. Words are accepted just if they are groups that give arguments
(`Gives`): a flag whose value counts once has its last value, and the others have all of theirs, in
order. Arguments are written as the groups of their options, and any order of these groups that
keeps the values of each collecting flag in order gives the arguments again. Main statement:
`Command.spec_read`.

A step of the reader takes up one group (`readFrom_words_append`), so what a run takes up is told by
induction on the groups (`readFrom_flatMap_words`, `exists_groups_of_readFrom`), and it is the
values of each flag apart (`Adds`, `adds_cons_iff`).
-/

namespace OperationGate

open Text

/-! ## Groups -/

/-- What stands together on a command line: a flag and its value, or the flag for more notes in its
short or its long form. -/
inductive ArgumentGroup where
  | valued (flag : ValueFlag) (value : String)
  | verbose (short : Bool)
  deriving DecidableEq, Repr

namespace ArgumentGroup

/-- The words of a group. -/
def words : ArgumentGroup → List String
  | .valued flag value => [flag.text, value]
  | .verbose short => [if short then "-v" else "--verbose"]

/-- The value that a group gives to a flag. -/
def value? (flag : ValueFlag) : ArgumentGroup → Option String
  | .valued f value => if f = flag then some value else none
  | .verbose _ => none

/-- Tells whether a group is the flag for more notes. -/
def isVerbose : ArgumentGroup → Bool
  | .valued _ _ => false
  | .verbose _ => true

/-- The values that groups give to a flag, in order. -/
def values (flag : ValueFlag) (gs : List ArgumentGroup) : List String :=
  gs.filterMap (value? flag)

section Values

variable {flag f : ValueFlag} {v : String} {short : Bool} {gs gs' : List ArgumentGroup}

@[simp]
lemma values_nil : values flag [] = [] := rfl

@[simp]
lemma values_cons_valued :
    values flag (.valued f v :: gs) = if f = flag then v :: values flag gs else values flag gs := by
  by_cases h : f = flag
  · have hvalue : value? flag (.valued f v) = some v := if_pos h
    rw [if_pos h, values, List.filterMap_cons_some hvalue, values]
  · have hvalue : value? flag (.valued f v) = none := if_neg h
    rw [if_neg h, values, List.filterMap_cons_none hvalue, values]

@[simp]
lemma values_cons_verbose : values flag (.verbose short :: gs) = values flag gs := rfl

lemma values_append : values flag (gs ++ gs') = values flag gs ++ values flag gs' :=
  List.filterMap_append

lemma values_map_valued (vs : List String) :
    values flag (vs.map (.valued f)) = if f = flag then vs else [] := by
  induction vs with
  | nil => split <;> rfl
  | cons v vs ih =>
    rw [List.map_cons, values_cons_valued, ih]
    split <;> rfl

end Values

end ArgumentGroup

open ArgumentGroup

/-! ## Flags -/

lemma Flag.ofText?_text (flag : ValueFlag) : Flag.ofText? flag.text = some (.valued flag) := by
  cases flag <;> decide

lemma Flag.ofText?_verbose (short : Bool) :
    Flag.ofText? (if short then "-v" else "--verbose") = some .verbose := by
  cases short <;> decide

/-- An argument that writes a flag with a value is its text. -/
lemma Flag.eq_text_of_ofText? {arg : String} {flag : ValueFlag}
    (h : Flag.ofText? arg = some (.valued flag)) : arg = flag.text := by
  unfold Flag.ofText? at h
  split at h
  · cases h
  · split at h
    · cases h
    · obtain ⟨f, hf, he⟩ := Option.map_eq_some_iff.1 h
      cases he
      exact (of_decide_eq_true
        (List.find?_some (p := fun x : ValueFlag => decide (x.text = arg)) hf)).symm

lemma Flag.eq_verbose_of_ofText? {arg : String} (h : Flag.ofText? arg = some .verbose) :
    ∃ short : Bool, arg = if short then "-v" else "--verbose" := by
  unfold Flag.ofText? at h
  split at h
  next hverbose =>
    rw [Bool.or_eq_true, decide_eq_true_eq, decide_eq_true_eq] at hverbose
    rcases hverbose with rfl | rfl
    · exact ⟨false, rfl⟩
    · exact ⟨true, rfl⟩
  next =>
    split at h
    · cases h
    · obtain ⟨f, -, he⟩ := Option.map_eq_some_iff.1 h
      cases he

/-! ## Pairs -/

/-- Tells that a value is written for a pair: the key stands before the first separator and the
value after it, blanks around them do not count, and the key is not empty. -/
def IsPairText (separator : Char) (value : String) (p : String × String) : Prop :=
  ∃ key rest, value = key ++ String.singleton separator ++ rest ∧ separator ∉ key.toList ∧
    trimmed key = p.1 ∧ trimmed rest = p.2 ∧ p.1 ≠ ""

/-- Tells that a pair can be written as it is: its parts are trimmed, and its key is not empty and
has no separator. -/
structure IsPlainPair (separator : Char) (p : String × String) : Prop where
  key_trimmed : trimmed p.1 = p.1
  value_trimmed : trimmed p.2 = p.2
  key_ne : p.1 ≠ ""
  no_separator : separator ∉ p.1.toList

/-- The text of a pair. -/
def pairText (separator : Char) (p : String × String) : String :=
  p.1 ++ String.singleton separator ++ p.2

lemma isPairText_pairText {separator : Char} {p : String × String} (h : IsPlainPair separator p) :
    IsPairText separator (pairText separator p) p :=
  ⟨p.1, p.2, rfl, h.no_separator, h.key_trimmed, h.value_trimmed, h.key_ne⟩

namespace Command

lemma pairOf?_eq_some_iff {separator : Char} {value : String} {p : String × String} :
    pairOf? separator value = some p ↔ IsPairText separator value p := by
  have hempty : ∀ cs : List Char, cs.isEmpty = true ↔ String.ofList cs = "" := fun cs => by
    rw [List.isEmpty_iff, ← String.toList_inj, String.toList_ofList]
    rfl
  constructor
  · intro h
    unfold pairOf? at h
    split at h
    next => cases h
    next key rest hcut =>
      split at h
      next => cases h
      next hkey =>
        cases h
        obtain ⟨hvalue, hnot⟩ := cutAt?_eq_some_iff.1 hcut
        refine ⟨String.ofList key, String.ofList rest, ?_, ?_, ?_, ?_, ?_⟩
        · rw [← String.toList_inj, hvalue]
          simp
        · rwa [String.toList_ofList]
        · rw [trimmed, String.toList_ofList]
        · rw [trimmed, String.toList_ofList]
        · exact fun he => hkey ((hempty _).2 he)
  · rintro ⟨key, rest, rfl, hnot, hkey, hrest, hne⟩
    have hcut : cutAt? separator (key ++ String.singleton separator ++ rest).toList =
        some (key.toList, rest.toList) := by
      have hchars : (key ++ String.singleton separator ++ rest).toList =
          key.toList ++ separator :: rest.toList := by
        simp
      rw [hchars, cutAt?_append_cons hnot]
    have hfull : ¬(trim key.toList).isEmpty = true := fun he => hne (hkey ▸ (hempty _).1 he)
    rw [pairOf?, hcut]
    simp only [if_neg hfull, Option.some.injEq]
    exact Prod.ext hkey hrest

/-! ## What groups add -/

/-- Takes up a group. -/
def add (d : Draft) : ArgumentGroup → Except ArgumentIssue Draft
  | .valued flag value => take d flag value
  | .verbose _ => .ok (d.1, { d.2 with verbose := true })

/-- Tells what groups add to a draft: the last value of a flag whose value counts once replaces the
one before, and the values of the other flags are added behind those before. -/
@[mk_iff]
structure Adds (d : Draft) (gs : List ArgumentGroup) (d' : Draft) : Prop where
  endpoint : d'.1 = (values .endpoint gs).getLast?.or d.1
  root : d'.2.root = (values .root gs).getLast?.elim d.2.root Path.mk
  buildDir : d'.2.buildDir = ((values .out gs).getLast?.map Path.mk).or d.2.buildDir
  route : d'.2.route = (values .route gs).getLast?.or d.2.route
  schemaPath : d'.2.schemaPath = ((values .schema gs).getLast?.map Path.mk).or d.2.schemaPath
  schemaUrl : d'.2.schemaUrl = (values .schemaUrl gs).getLast?.or d.2.schemaUrl
  headers : ∃ ps, List.Forall₂ (IsPairText ':') (values .header gs) ps ∧
    d'.2.headers = d.2.headers ++ ps
  patterns : d'.2.patterns = d.2.patterns ++ values .documents gs
  scalars : ∃ ps, List.Forall₂ (IsPairText '=') (values .scalar gs) ps ∧
    d'.2.scalars = d.2.scalars ++ ps
  clientOptions : d'.2.clientOptions =
    ((values .clientOptions gs).getLast?.map Path.mk).or d.2.clientOptions
  serverOptions : d'.2.serverOptions =
    ((values .serverOptions gs).getLast?.map Path.mk).or d.2.serverOptions
  verbose : d'.2.verbose = (d.2.verbose || gs.any isVerbose)

lemma adds_nil_iff {d d' : Draft} : Adds d [] d' ↔ d' = d := by
  obtain ⟨endpoint, o⟩ := d
  obtain ⟨endpoint', o'⟩ := d'
  cases o
  cases o'
  simp [adds_iff]

section Last

variable {α β : Type} {a : α} {as : List α}

/-- The last item of a list that goes on is that of what goes on, or else the first. -/
lemma or_getLast?_cons (x : Option α) : (a :: as).getLast?.or x = as.getLast?.or (some a) := by
  rw [List.getLast?_cons]
  cases as.getLast? <;> rfl

lemma or_map_getLast?_cons (f : α → β) (x : Option β) :
    ((a :: as).getLast?.map f).or x = (as.getLast?.map f).or (some (f a)) := by
  rw [List.getLast?_cons]
  cases as.getLast? <;> rfl

lemma elim_getLast?_cons (f : α → β) (x : β) :
    (a :: as).getLast?.elim x f = as.getLast?.elim (f a) f := by
  rw [List.getLast?_cons]
  cases as.getLast? <;> rfl

end Last

/-- A header is taken up if it is a pair. -/
lemma take_header_eq_ok_iff {d d' : Draft} {v : String} :
    take d .header v = .ok d' ↔ ∃ p, IsPairText ':' v p ∧
      (d.1, { d.2 with headers := d.2.headers ++ [p] }) = d' := by
  simp only [← pairOf?_eq_some_iff, take]
  cases pairOf? ':' v <;> simp

lemma take_scalar_eq_ok_iff {d d' : Draft} {v : String} :
    take d .scalar v = .ok d' ↔ ∃ p, IsPairText '=' v p ∧
      (d.1, { d.2 with scalars := d.2.scalars ++ [p] }) = d' := by
  simp only [← pairOf?_eq_some_iff, take]
  cases pairOf? '=' v <;> simp

/-- Pairs are taken up one after the other. -/
lemma exists_pairs_cons_iff {separator : Char} {v : String} {vs : List String}
    {before after : List (String × String)} :
    (∃ ps, List.Forall₂ (IsPairText separator) (v :: vs) ps ∧ after = before ++ ps) ↔
      ∃ p, IsPairText separator v p ∧
        ∃ ps, List.Forall₂ (IsPairText separator) vs ps ∧ after = before ++ [p] ++ ps := by
  simp only [List.forall₂_cons_left_iff, List.append_assoc, List.singleton_append]
  constructor
  · rintro ⟨_, ⟨p, ps, hp, hps, rfl⟩, rfl⟩
    exact ⟨p, hp, ps, hps, rfl⟩
  · rintro ⟨p, hp, ps, hps, rfl⟩
    exact ⟨_, ⟨p, ps, hp, hps, rfl⟩, rfl⟩

/-- What groups add is what the first of them adds and then the others. -/
theorem adds_cons_iff {d d' : Draft} {g : ArgumentGroup} {gs : List ArgumentGroup} :
    Adds d (g :: gs) d' ↔ ∃ d₁, add d g = .ok d₁ ∧ Adds d₁ gs d' := by
  cases g with
  | verbose short => simp [adds_iff, add, isVerbose]
  | valued flag v =>
    have hverbose : (.valued flag v :: gs).any isVerbose = gs.any isVerbose := rfl
    cases flag with
    | header =>
      simp only [add, take_header_eq_ok_iff]
      constructor
      · intro h
        obtain ⟨p, hp, hps⟩ := exists_pairs_cons_iff.1 h.headers
        exact ⟨_, ⟨p, hp, rfl⟩, { h with headers := hps }⟩
      · rintro ⟨_, ⟨p, hp, rfl⟩, h⟩
        exact { h with headers := exists_pairs_cons_iff.2 ⟨p, hp, h.headers⟩ }
    | scalar =>
      simp only [add, take_scalar_eq_ok_iff]
      constructor
      · intro h
        obtain ⟨p, hp, hps⟩ := exists_pairs_cons_iff.1 h.scalars
        exact ⟨_, ⟨p, hp, rfl⟩, { h with scalars := hps }⟩
      · rintro ⟨_, ⟨p, hp, rfl⟩, h⟩
        exact { h with scalars := exists_pairs_cons_iff.2 ⟨p, hp, h.scalars⟩ }
    | _ => simp [add, take, adds_iff, hverbose, or_getLast?_cons, or_map_getLast?_cons,
        elim_getLast?_cons]

/-! ## Runs of the reader -/

/-- The reader takes up a group and goes on with the words behind it. -/
theorem readFrom_words_append (d : Draft) (g : ArgumentGroup) (rest : List String) :
    readFrom d (g.words ++ rest) =
      match add d g with
      | .ok d₁ => readFrom d₁ rest
      | .error issue => .refused issue := by
  cases g with
  | valued flag value => rw [words, List.cons_append, readFrom, Flag.ofText?_text]; rfl
  | verbose short => rw [words, List.cons_append, readFrom, Flag.ofText?_verbose]; rfl

/-- Groups that add something to a draft are read as what they add. -/
theorem readFrom_flatMap_words {d d' : Draft} {gs : List ArgumentGroup} (h : Adds d gs d') :
    readFrom d (gs.flatMap words) = readFrom d' [] := by
  induction gs generalizing d with
  | nil => rw [adds_nil_iff.1 h, List.flatMap_nil]
  | cons g gs ih =>
    obtain ⟨d₁, hadd, hrest⟩ := adds_cons_iff.1 h
    rw [List.flatMap_cons, readFrom_words_append, hadd]
    exact ih hrest

/-- At the end of the words a build is asked for if the endpoint was given. -/
lemma readFrom_nil_eq_build_iff {d : Draft} {a : Arguments} :
    readFrom d [] = .build a ↔ d = (some a.endpoint, a.toCommandOptions) := by
  obtain ⟨endpoint | endpoint, o⟩ := d
  · simp [readFrom]
  · rw [readFrom, Command.build.injEq]
    constructor
    · rintro rfl
      rfl
    · intro h
      cases h
      rfl

/-- Words that ask for a build are groups, and the build has what they add to the draft. -/
theorem exists_groups_of_readFrom {d : Draft} {args : List String} {a : Arguments}
    (h : readFrom d args = .build a) :
    ∃ gs : List ArgumentGroup, args = gs.flatMap words ∧
      Adds d gs (some a.endpoint, a.toCommandOptions) := by
  fun_induction readFrom d args with
  | case1 d endpoint hd =>
    have hend : readFrom d [] = .build a := by rw [readFrom, hd, ← h]
    exact ⟨[], rfl, adds_nil_iff.2 (readFrom_nil_eq_build_iff.1 hend).symm⟩
  | case2 => cases h
  | case3 => cases h
  | case4 => cases h
  | case5 d arg rest hflag ih =>
    obtain ⟨gs, rfl, hadds⟩ := ih h
    obtain ⟨short, rfl⟩ := Flag.eq_verbose_of_ofText? hflag
    exact ⟨.verbose short :: gs, rfl, adds_cons_iff.2 ⟨_, rfl, hadds⟩⟩
  | case6 => cases h
  | case7 d arg flag hflag value rest d₁ htake ih =>
    obtain ⟨gs, rfl, hadds⟩ := ih h
    obtain rfl := Flag.eq_text_of_ofText? hflag
    exact ⟨.valued flag value :: gs, rfl, adds_cons_iff.2 ⟨_, htake, hadds⟩⟩
  | case8 => cases h

end Command

/-! ## Arguments that groups give -/

/-- Tells that groups give arguments: a flag whose value counts once has its last value, or what
stands for it where it is missing, and the other flags have all of their values, in order. -/
@[mk_iff]
structure Gives (gs : List ArgumentGroup) (a : Arguments) : Prop where
  endpoint : (values .endpoint gs).getLast? = some a.endpoint
  root : a.root = (values .root gs).getLast?.elim ⟨"."⟩ Path.mk
  buildDir : a.buildDir = (values .out gs).getLast?.map Path.mk
  route : a.route = (values .route gs).getLast?
  schemaPath : a.schemaPath = (values .schema gs).getLast?.map Path.mk
  schemaUrl : a.schemaUrl = (values .schemaUrl gs).getLast?
  headers : List.Forall₂ (IsPairText ':') (values .header gs) a.headers
  patterns : a.patterns = values .documents gs
  scalars : List.Forall₂ (IsPairText '=') (values .scalar gs) a.scalars
  clientOptions : a.clientOptions = (values .clientOptions gs).getLast?.map Path.mk
  serverOptions : a.serverOptions = (values .serverOptions gs).getLast?.map Path.mk
  verbose : a.verbose = gs.any isVerbose

lemma gives_iff_adds {gs : List ArgumentGroup} {a : Arguments} :
    Gives gs a ↔ Command.Adds (none, {}) gs (some a.endpoint, a.toCommandOptions) := by
  simp [gives_iff, Command.adds_iff, eq_comm (a := some a.endpoint)]

namespace Arguments

/-- The values that a flag has for arguments. -/
def valuesOf (a : Arguments) : ValueFlag → List String
  | .endpoint => [a.endpoint]
  | .root => [a.root.text]
  | .out => a.buildDir.toList.map (·.text)
  | .route => a.route.toList
  | .schema => a.schemaPath.toList.map (·.text)
  | .schemaUrl => a.schemaUrl.toList
  | .header => a.headers.map (pairText ':')
  | .documents => a.patterns
  | .scalar => a.scalars.map (pairText '=')
  | .clientOptions => a.clientOptions.toList.map (·.text)
  | .serverOptions => a.serverOptions.toList.map (·.text)

/-- The groups of arguments, flag by flag. -/
def groups (a : Arguments) (short : Bool) : List ArgumentGroup :=
  (ValueFlag.all.flatMap fun flag => (a.valuesOf flag).map (.valued flag))
    ++ (if a.verbose then [.verbose short] else [])

lemma values_groups (a : Arguments) (short : Bool) (flag : ValueFlag) :
    values flag (a.groups short) = a.valuesOf flag := by
  have hlast : values flag (if a.verbose then [.verbose short] else []) = [] := by split <;> rfl
  rw [groups, values_append, hlast, List.append_nil]
  cases flag <;> simp [ValueFlag.all, values_append, values_map_valued]

lemma any_isVerbose_groups (a : Arguments) (short : Bool) :
    (a.groups short).any isVerbose = a.verbose := by
  have hvalued : ∀ flag : ValueFlag, ((a.valuesOf flag).map (ArgumentGroup.valued flag)).any
      isVerbose = false :=
    fun flag => by simp [isVerbose]
  rw [groups, List.any_append, List.any_flatMap]
  cases a.verbose <;> simp [hvalued, isVerbose]

end Arguments

/-- Tells whether a flag collects its values. -/
def ValueFlag.collects : ValueFlag → Bool
  | .header | .documents | .scalar => true
  | _ => false

namespace Arguments

/-- A flag that does not collect its values has at most one. -/
lemma length_valuesOf_le (a : Arguments) {flag : ValueFlag} (h : flag.collects = false) :
    (a.valuesOf flag).length ≤ 1 := by
  cases flag with
  | header | documents | scalar => cases h
  | endpoint | root => exact Nat.le_refl _
  | _ => simp only [valuesOf, List.length_map, Option.length_toList_le]

/-- Groups in another order, in which each collecting flag has its values in their order, have the
same values for every flag. -/
lemma values_of_perm {a : Arguments} {short : Bool} {gs : List ArgumentGroup}
    (hperm : gs.Perm (a.groups short))
    (hkept : ∀ flag : ValueFlag, flag.collects → values flag gs = values flag (a.groups short))
    (flag : ValueFlag) : values flag gs = a.valuesOf flag := by
  rw [← a.values_groups short flag]
  cases hcollects : flag.collects with
  | true => exact hkept flag hcollects
  | false =>
    have hvalues : (values flag gs).Perm (values flag (a.groups short)) :=
      hperm.filterMap (value? flag)
    have hlength := a.length_valuesOf_le hcollects
    rw [← a.values_groups short flag] at hlength
    rcases hlist : values flag (a.groups short) with _ | ⟨v, _ | ⟨w, rest⟩⟩
    · exact List.perm_nil.1 (hlist ▸ hvalues)
    · exact List.perm_singleton.1 (hlist ▸ hvalues)
    · rw [hlist] at hlength
      simp at hlength

/-- The texts of pairs that can be written as they are. -/
lemma forall₂_isPairText {separator : Char} {ps : List (String × String)}
    (h : ∀ p ∈ ps, IsPlainPair separator p) :
    List.Forall₂ (IsPairText separator) (ps.map (pairText separator)) ps := by
  induction ps with
  | nil => exact .nil
  | cons p ps ih =>
    rw [List.forall_mem_cons] at h
    exact .cons (isPairText_pairText h.1) (ih h.2)

/-- The groups of arguments give them again, in any order that keeps the values of collecting flags
in theirs. -/
lemma gives_of_perm {a : Arguments} {short : Bool} {gs : List ArgumentGroup}
    (hheaders : ∀ p ∈ a.headers, IsPlainPair ':' p) (hscalars : ∀ p ∈ a.scalars, IsPlainPair '=' p)
    (hperm : gs.Perm (a.groups short))
    (hkept : ∀ flag : ValueFlag, flag.collects → values flag gs = values flag (a.groups short)) :
    Gives gs a := by
  have hvalues := values_of_perm hperm hkept
  have hlast : ∀ x : Option String, x.toList.getLast? = x := fun x => by cases x <;> rfl
  have hpath : ∀ x : Option Path, (x.toList.map (·.text)).getLast?.map Path.mk = x :=
    fun x => by cases x <;> rfl
  exact {
    endpoint := by rw [hvalues]; rfl
    root := by rw [hvalues]; rfl
    buildDir := by rw [hvalues, valuesOf, hpath]
    route := by rw [hvalues, valuesOf, hlast]
    schemaPath := by rw [hvalues, valuesOf, hpath]
    schemaUrl := by rw [hvalues, valuesOf, hlast]
    headers := by rw [hvalues]; exact forall₂_isPairText hheaders
    patterns := by rw [hvalues]; rfl
    scalars := by rw [hvalues]; exact forall₂_isPairText hscalars
    clientOptions := by rw [hvalues, valuesOf, hpath]
    serverOptions := by rw [hvalues, valuesOf, hpath]
    verbose := by rw [hperm.any_eq, any_isVerbose_groups] }

end Arguments

namespace Command

/-- Words ask for a build just if they are groups that give its arguments. -/
lemma read_eq_build_iff {args : List String} {a : Arguments} :
    read args = .build a ↔ ∃ gs : List ArgumentGroup, args = gs.flatMap words ∧ Gives gs a := by
  constructor
  · intro h
    obtain ⟨gs, hargs, hadds⟩ := exists_groups_of_readFrom h
    exact ⟨gs, hargs, gives_iff_adds.2 hadds⟩
  · rintro ⟨gs, rfl, h⟩
    rw [read, readFrom_flatMap_words (gives_iff_adds.1 h)]
    exact readFrom_nil_eq_build_iff.2 rfl

/-- Words ask for a build just if they are groups that give its arguments. The groups of arguments
whose pairs can be written as they are ask for a build with these arguments, in any order that keeps
the values of each collecting flag in their order. -/
theorem spec_read :
    (∀ args a, read args = .build a ↔ ∃ gs : List ArgumentGroup, args =
      gs.flatMap words ∧ Gives gs a) ∧ ∀ (a : Arguments) (short : Bool) (gs : List ArgumentGroup),
        (∀ p ∈ a.headers, IsPlainPair ':' p) → (∀ p ∈ a.scalars, IsPlainPair '=' p) →
          gs.Perm (a.groups short) →
          (∀ flag : ValueFlag, flag.collects → values flag gs = values flag (a.groups short)) →
            read (gs.flatMap words) = .build a := by
  refine ⟨fun args a => read_eq_build_iff, fun a short gs hheaders hscalars hperm hkept => ?_⟩
  exact read_eq_build_iff.2 ⟨gs, rfl, Arguments.gives_of_perm hheaders hscalars hperm hkept⟩

/-- Arguments with values that look like flags. -/
def sampleArguments : Arguments where
  endpoint := "--root"
  headers := [("authorization", "Bearer a:b")]
  patterns := ["-v", "--help"]
  verbose := true

/-- The groups of the arguments, the patterns around the others. -/
def sampleGroups : List ArgumentGroup :=
  [.valued .documents "-v", .verbose true, .valued .header "authorization:Bearer a:b",
    .valued .root ".", .valued .endpoint "--root", .valued .documents "--help"]

theorem spec_read_sample :
    (∀ p ∈ sampleArguments.headers, IsPlainPair ':' p) ∧
      sampleGroups.Perm (sampleArguments.groups true) ∧
      read ["--documents", "-v", "-v", "--header", "authorization:Bearer a:b", "--root", ".",
        "--endpoint", "--root", "--documents", "--help"] = .build sampleArguments := by
  have hheaders : ∀ p ∈ sampleArguments.headers, IsPlainPair ':' p :=
    List.forall_mem_singleton.2 ⟨by decide, by decide, by decide, by decide⟩
  have hscalars : ∀ p ∈ sampleArguments.scalars, IsPlainPair '=' p :=
    fun _ hp => absurd hp List.not_mem_nil
  have hperm : sampleGroups.Perm (sampleArguments.groups true) := by decide
  refine ⟨hheaders, hperm,
    spec_read.2 sampleArguments true sampleGroups hheaders hscalars hperm fun flag _ => ?_⟩
  cases flag <;> decide

end Command

end OperationGate
