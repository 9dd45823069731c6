import OperationGate.Proofs.Text.Parts
import OperationGate.Proofs.Text.Utf8
import OperationGate.Url.Basic

/-!
# Queries of addresses, written and read

The pairs that are added to a query are read from it, after those that it had, whatever texts they
hold: `queryPairs_appendPairs`. An encoded name or value is made of letters, digits and a few marks,
none of which parts pairs (`ne_of_inEncoded`), and it is read as the text it was made of
(`decode_encode`).
-/

namespace OperationGate

namespace Url

open OperationGate.Text

namespace Percent

/-! ## Encoded bytes -/

/-- A digit is a letter or a digit of ASCII and has its number. -/
lemma digit_spec : ∀ n < 16, (digit n).isAlphanum ∧
    digit? (UInt8.ofNat (digit n).toNat) = some n := by
  decide

lemma decode_cons {b : UInt8} (h : b ≠ 37) (bs : List UInt8) :
    decode (b :: bs) = b :: decode bs := by
  match bs with
  | [] => rfl
  | [_] => rfl
  | _ :: _ :: _ => rw [decode, if_neg h]

lemma decode_encodeByte (b : UInt8) (bs : List UInt8) :
    decode (Utf8.encode (encodeByte b) ++ bs) = b :: decode bs := by
  have hb : b.toNat < 256 := b.toNat_lt
  obtain ⟨h1, d1⟩ := digit_spec (b.toNat / 16) (by omega)
  obtain ⟨h2, d2⟩ := digit_spec (b.toNat % 16) (by omega)
  rw [encodeByte, Utf8.encode_cons_of_lt (by decide),
    Utf8.encode_cons_of_lt (toNat_lt_of_isAlphanum h1),
    Utf8.encode_cons_of_lt (toNat_lt_of_isAlphanum h2), Utf8.encode_nil]
  simp only [List.cons_append, List.nil_append]
  rw [decode, if_pos (by decide), d1, d2]
  simp only
  rw [show b.toNat / 16 * 16 + b.toNat % 16 = b.toNat by omega, UInt8.ofNat_toNat]

/-- Encoded bytes are decoded, and so is what follows them. -/
lemma decode_flatMap_encodeByte (as bs : List UInt8) :
    decode (Utf8.encode (as.flatMap encodeByte) ++ bs) = as ++ decode bs := by
  induction as with
  | nil => rfl
  | cons a as ih =>
    rw [List.flatMap_cons, Utf8.encode_append, List.append_assoc, decode_encodeByte, ih]
    rfl

/-- Characters that stand for themselves are encoded as they are. -/
lemma encode_eq_self {keeps : Char → Bool} {cs : List Char} (h : ∀ c ∈ cs, keeps c) :
    encode keeps cs = cs := by
  induction cs with
  | nil => rfl
  | cons c cs ih =>
    rw [encode, List.flatMap_cons, if_pos (h c List.mem_cons_self)]
    exact congrArg (c :: ·) (ih fun d hd => h d (List.mem_cons_of_mem _ hd))

end Percent

namespace Form

/-! ## The characters of encoded names and values -/

/-- A character that stands for itself is in ASCII and is no mark of the encoding. -/
lemma keeps_spec {c : Char} (h : keeps c) :
    c.toNat < 128 ∧ c ≠ '+' ∧ c ≠ '%' ∧ c ≠ '&' ∧ c ≠ '=' ∧ Percent.inWebQuery c := by
  have hc : c.toNat < 128 := by
    simp only [keeps, Bool.or_eq_true, decide_eq_true_eq] at h
    rcases h with (((h | rfl) | rfl) | rfl) | rfl
    · exact toNat_lt_of_isAlphanum h
    all_goals decide
  refine ⟨hc, ?_⟩
  revert h
  refine forall_ascii
    (p := fun c => keeps c → c ≠ '+' ∧ c ≠ '%' ∧ c ≠ '&' ∧ c ≠ '=' ∧ Percent.inWebQuery c) ?_ hc
  decide

/-- The characters of an encoded name or value. -/
def inEncoded (c : Char) : Bool :=
  keeps c || c = '+' || c = '%'

theorem ne_of_inEncoded {c : Char} (h : inEncoded c) :
    c ≠ '&' ∧ c ≠ '=' ∧ Percent.inWebQuery c := by
  simp only [inEncoded, Bool.or_eq_true, decide_eq_true_eq] at h
  rcases h with (h | rfl) | rfl
  · exact (keeps_spec h).2.2.2
  all_goals decide

lemma mem_encodeByte {c : Char} {b : UInt8} (h : c ∈ Percent.encodeByte b) : c = '%' ∨ keeps c := by
  have hb : b.toNat < 256 := b.toNat_lt
  simp only [Percent.encodeByte, List.mem_cons, List.not_mem_nil, or_false] at h
  rcases h with rfl | rfl | rfl
  · exact .inl rfl
  · exact .inr (by simp [keeps, (Percent.digit_spec (b.toNat / 16) (by omega)).1])
  · exact .inr (by simp [keeps, (Percent.digit_spec (b.toNat % 16) (by omega)).1])

lemma inEncoded_of_mem_encode {s : String} {c : Char} (h : c ∈ encode s) : inEncoded c := by
  obtain ⟨d, -, hd⟩ := List.mem_flatMap.1 h
  split at hd
  · simp [List.mem_singleton.1 hd, inEncoded]
  · rw [Percent.encode, List.flatMap_singleton] at hd
    split at hd
    next hk => simp [List.mem_singleton.1 hd, inEncoded, hk]
    next =>
      obtain ⟨b, -, hb⟩ := List.mem_flatMap.1 hd
      rcases mem_encodeByte hb with rfl | hk
      · rfl
      · simp [inEncoded, hk]

lemma not_mem_encodePair (p : String × String) : '&' ∉ encodePair p := by
  intro h
  rcases List.mem_append.1 h with h | h
  · exact (ne_of_inEncoded (inEncoded_of_mem_encode h)).1 rfl
  · rcases List.mem_cons.1 h with h | h
    · exact absurd h (by decide)
    · exact (ne_of_inEncoded (inEncoded_of_mem_encode h)).1 rfl

/-! ## Names and values -/

/-- An encoded character is read as its bytes. A plus sign in the encoding always stands for a
blank, since one in the text is encoded. -/
lemma decode_encode_char (c : Char) (bs : List UInt8) :
    Percent.decode (Utf8.encode
        ((if c = ' ' then ['+'] else Percent.encode keeps [c]).map fun c =>
          if c = '+' then ' ' else c)
      ++ bs) = String.utf8EncodeChar c ++ Percent.decode bs := by
  by_cases hc : c = ' '
  · subst hc
    exact Percent.decode_cons (by decide) bs
  · rw [if_neg hc, Percent.encode, List.flatMap_singleton]
    by_cases hk : keeps c
    · obtain ⟨hlt, hplus, hpercent, -⟩ := keeps_spec hk
      rw [if_pos hk, List.map_singleton, if_neg hplus, Utf8.encode_cons_of_lt hlt,
        Utf8.utf8EncodeChar_of_lt hlt]
      exact Percent.decode_cons (Utf8.ofNat_toNat_ne (d := '%') hlt (by decide) hpercent) bs
    · have hplus : ∀ d ∈ (String.utf8EncodeChar c).flatMap Percent.encodeByte,
          (if d = '+' then ' ' else d) = d := by
        intro d hd
        obtain ⟨b, -, hb⟩ := List.mem_flatMap.1 hd
        refine if_neg ?_
        rcases mem_encodeByte hb with rfl | hk
        · decide
        · exact (keeps_spec hk).2.1
      rw [if_neg hk, List.map_congr_left hplus, List.map_id', Percent.decode_flatMap_encodeByte]

lemma decode_encode_chars (cs : List Char) :
    Percent.decode (Utf8.encode
        ((cs.flatMap fun c => if c = ' ' then ['+'] else Percent.encode keeps [c]).map
          fun c => if c = '+' then ' ' else c)) = Utf8.encode cs := by
  induction cs with
  | nil => rfl
  | cons c cs ih =>
    rw [List.flatMap_cons, List.map_append, Utf8.encode_append, decode_encode_char, ih,
      Utf8.encode_cons]

/-- An encoded name or value is read as itself. -/
theorem decode_encode (s : String) : decode (encode s) = s := by
  rw [decode, encode, decode_encode_chars, Utf8.decode_encode, String.ofList_toList]

/-! ## Pairs -/

lemma readPair_encodePair (p : String × String) : readPair (encodePair p) = p := by
  have h : '=' ∉ encode p.1 := fun h => (ne_of_inEncoded (inEncoded_of_mem_encode h)).2.1 rfl
  rw [readPair, encodePair, cutAt?_append_cons h]
  simp [decode_encode]

/-- The pairs of the parts of a query, empty parts left out. -/
lemma read_eq (query : List Char) :
    read query = ((query.splitOn '&').filter fun part => !part.isEmpty).map readPair := rfl

lemma read_encodePair (p : String × String) : read (encodePair p) = [p] := by
  have hne : [encodePair p].filter (fun part => !part.isEmpty) = [encodePair p] :=
    List.filter_eq_self.2 fun part hpart => by simp [List.mem_singleton.1 hpart, encodePair]
  rw [read_eq, List.splitOn_eq_singleton (not_mem_encodePair p), hne, List.map_singleton,
    readPair_encodePair]

lemma read_append (query : List Char) (p : String × String) :
    read (append query p) = read query ++ [p] := by
  cases query with
  | nil => exact read_encodePair p
  | cons c cs =>
    have hp := read_encodePair p
    rw [read_eq] at hp
    rw [append, if_neg (by simp), read_eq, List.splitOn_append_cons_self, List.filter_append,
      List.map_append, hp, ← read_eq]

/-- Pairs added to a query are read after those that it had. -/
lemma read_foldl_append (query : List Char) (ps : List (String × String)) :
    read (ps.foldl append query) = read query ++ ps := by
  induction ps generalizing query with
  | nil => simp
  | cons p ps ih => rw [List.foldl_cons, ih, read_append, List.append_assoc]; rfl

/-- Adding pairs keeps a query made of characters that queries of web addresses hold as they are. -/
lemma inWebQuery_of_mem_foldl {query : List Char} {ps : List (String × String)}
    (hq : ∀ c ∈ query, Percent.inWebQuery c) {c : Char} (h : c ∈ ps.foldl append query) :
    Percent.inWebQuery c := by
  induction ps generalizing query with
  | nil => exact hq c h
  | cons p ps ih =>
    have hp : ∀ d ∈ encodePair p, Percent.inWebQuery d := by
      intro d hd
      rcases List.mem_append.1 hd with hd | hd
      · exact (ne_of_inEncoded (inEncoded_of_mem_encode hd)).2.2
      · rcases List.mem_cons.1 hd with rfl | hd
        · decide
        · exact (ne_of_inEncoded (inEncoded_of_mem_encode hd)).2.2
    refine ih (fun d hd => ?_) h
    rw [append] at hd
    split at hd
    · exact hp d hd
    · rcases List.mem_append.1 hd with hd | hd
      · exact hq d hd
      · rcases List.mem_cons.1 hd with rfl | hd
        · decide
        · exact hp d hd

end Form

/-- The pairs added to an address are read from it, after those that it had. -/
theorem queryPairs_appendPairs (u : Url) (ps : List (String × String)) :
    (u.appendPairs ps).queryPairs = u.queryPairs ++ ps := by
  simp [queryPairs, appendPairs, Form.read_foldl_append]

@[simp]
lemma queryPairs_dropEmptyQuery (u : Url) : u.dropEmptyQuery.queryPairs = u.queryPairs := by
  unfold dropEmptyQuery
  split
  next h => simp [queryPairs, h]
  next => rfl

end Url

end OperationGate
