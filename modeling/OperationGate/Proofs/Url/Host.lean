import OperationGate.Proofs.Text.Parts
import OperationGate.Proofs.Url.Query
import OperationGate.Url.Parser

/-!
# Hosts and their texts

The text of a host that was read holds no mark that takes an address apart (`inHost_of_mem_text`),
and a colon in it stands in brackets (`hostLength_text`). A domain is made of allowed characters
whatever it was read from, since the characters that punycode adds are letters, digits and hyphens.

A host is read from its own text if it has four bytes (`isStable_ipv4`) or was read from a plain
text, in ASCII and without marked labels (`IsPlain.isStable`).
-/

namespace OperationGate

namespace Url

open OperationGate.Text

namespace Punycode

/-! ## The characters of domains -/

lemma isAllowed_digitChar : ∀ d < 36, Domain.isAllowed (digitChar d) := by
  decide

lemma threshold_le (place bias : Nat) : threshold place bias ≤ 26 := by
  unfold threshold
  split <;> omega

lemma isAllowed_of_mem_digits {bias place n : Nat} {c : Char} (h : c ∈ digits bias place n) :
    Domain.isAllowed c := by
  fun_induction digits bias place n with
  | case1 place n t hn =>
    have := threshold_le place bias
    exact List.mem_singleton.1 h ▸ isAllowed_digitChar n (by omega)
  | case2 place n t hn ih =>
    have := threshold_le place bias
    rcases List.mem_cons.1 h with rfl | h
    · refine isAllowed_digitChar _ ?_
      have : (n - t) % (36 - t) < 36 - t := Nat.mod_lt _ (by omega)
      omega
    · exact ih h

lemma isAllowed_of_mem_writeAll {label : List Char} {first : Nat} {ns : List Nat} {last : Nat}
    {s : State} (hs : ∀ c ∈ s.written, Domain.isAllowed c) :
    ∀ c ∈ (s.writeAll label first ns last).written, Domain.isAllowed c := by
  induction ns generalizing s last with
  | nil => exact hs
  | cons n ns ih =>
    refine ih ?_
    refine List.foldlRecOn (motive :=
      fun s : State => ∀ c ∈ s.written, Domain.isAllowed c) label _ hs ?_
    intro s hs d _ c hc
    unfold State.pass at hc
    split at hc
    · exact hs c hc
    · split at hc
      · rcases List.mem_append.1 hc with hc | hc
        · exact hs c hc
        · exact isAllowed_of_mem_digits hc
      · exact hs c hc

/-- A label in ASCII holds its own characters in ASCII, hyphens and digits. -/
lemma isAllowed_of_mem_encode {label : List Char}
    (h : ∀ c ∈ label, c.toNat < 128 → Domain.isAllowed c) {c : Char} (hc : c ∈ encode label) :
    Domain.isAllowed c := by
  unfold encode at hc
  rcases List.mem_append.1 hc with hc | hc
  · rcases List.mem_append.1 hc with hc | hc
    · obtain ⟨hc, hlt⟩ := List.mem_filter.1 hc
      exact h c hc (of_decide_eq_true hlt)
    · split at hc
      · cases hc
      · exact List.mem_singleton.1 hc ▸ rfl
  · exact isAllowed_of_mem_writeAll (fun _ h => absurd h List.not_mem_nil) c hc

end Punycode

namespace Domain

lemma Label.isAllowed_of_mem_written {part : List Char} {l : Label}
    (h : ∀ c ∈ part, c.toNat < 128 → isAllowed c) (hl : Label.read? part = some l) {c : Char}
    (hc : c ∈ l.written) : isAllowed c := by
  have hmark : ∀ c ∈ Label.mark, isAllowed c := List.all_eq_true.1 (by decide)
  have hascii : ∀ {cs : List Char}, Label.isAscii cs → ∀ c ∈ cs, c.toNat < 128 := fun hcs c hc =>
    of_decide_eq_true (List.all_eq_true.1 hcs c hc)
  unfold Label.read? at hl
  split at hl
  next rest hrest =>
    have hpart := List.append_eq_of_isPrefixOf?_eq_some hrest
    unfold Label.ofMarked? at hl
    split at hl
    next hr =>
      rw [Bool.and_eq_true] at hr
      split at hl
      · split at hl
        · cases hl
          rcases List.mem_append.1 hc with hc | hc
          · exact hmark c hc
          · exact h c (hpart ▸ List.mem_append_right _ hc) (hascii hr.1 c hc)
        · cases hl
      · cases hl
    next => cases hl
  next =>
    split at hl
    next ha =>
      cases hl
      exact h c hc (hascii ha c hc)
    next =>
      split at hl
      · cases hl
        rcases List.mem_append.1 hc with hc | hc
        · exact hmark c hc
        · exact Punycode.isAllowed_of_mem_encode h hc
      · cases hl

lemma isAllowed_of_mem_meaning {cs meant : List Char} (h : meaning? cs = some meant) {c : Char}
    (hc : c ∈ meant) (hlt : c.toNat < 128) : isAllowed c := by
  unfold meaning? at h
  simp only [Option.bind_eq_bind, Option.bind_eq_some_iff] at h
  obtain ⟨images, -, h⟩ := h
  split at h
  · cases h
  next hany =>
    cases h
    simp only [Bool.not_eq_true, List.any_eq_false, Bool.and_eq_true, decide_eq_true_eq,
      Bool.not_eq_true', not_and, Bool.not_eq_false] at hany
    exact hany c hc hlt

/-- A domain that was read holds allowed characters only. -/
lemma isAllowed_of_mem_read {cs name : List Char} (h : read? cs = some name) {c : Char}
    (hc : c ∈ name) : isAllowed c := by
  unfold read? at h
  simp only [Option.bind_eq_bind, Option.bind_eq_some_iff] at h
  obtain ⟨meant, hmeant, labels, hlabels, h⟩ := h
  split at h
  · cases h
    rcases mem_intercalate hc with hc | ⟨part, hpart, hc⟩
    · exact List.mem_singleton.1 hc ▸ rfl
    · obtain ⟨l, hl, rfl⟩ := List.mem_map.1 hpart
      obtain ⟨p, hp, hread⟩ := exists_of_mem_of_mapM hlabels hl
      exact Label.isAllowed_of_mem_written
        (fun d hd => isAllowed_of_mem_meaning hmeant (mem_of_mem_splitOn hp hd)) hread hc
  · cases h

end Domain

namespace Host

/-! ## The characters of hosts -/

/-- Tells whether a character may be in the text of a host: it is visible and no mark that takes an
address apart but a colon or a bracket. -/
def inHost (c : Char) : Bool :=
  ' ' < c && c.toNat < 127 && !"%#/<>?@\\^|".toList.contains c

lemma inHost_of_isAllowed {c : Char} (h : Domain.isAllowed c) :
    inHost c ∧ c ≠ ':' ∧ c ≠ '[' ∧ c ≠ ']' := by
  have hc : c.toNat < 128 := by
    simp only [Domain.isAllowed, Percent.isPrintable, Bool.and_eq_true, decide_eq_true_eq] at h
    omega
  revert h
  refine forall_ascii
    (p := fun c => Domain.isAllowed c → inHost c ∧ c ≠ ':' ∧ c ≠ '[' ∧ c ≠ ']') ?_ hc
  decide

lemma isAllowed_digitChar : ∀ d < 16, Domain.isAllowed d.digitChar := by
  decide

/-- The digits of a number are characters of domains. -/
lemma isAllowed_of_mem_toDigits {base : Nat} (h1 : 1 < base) (h16 : base ≤ 16) {n : Nat} {c : Char}
    (h : c ∈ Nat.toDigits base n) : Domain.isAllowed c := by
  induction n using Nat.strongRecOn with
  | ind n ih =>
    rw [Nat.toDigits_eq_if h1] at h
    split at h
    next hn => exact List.mem_singleton.1 h ▸ isAllowed_digitChar n (by omega)
    next hn =>
      rcases List.mem_append.1 h with h | h
      · exact ih (n / base) (Nat.div_lt_self (by omega) h1) h
      · have := Nat.mod_lt n (Nat.lt_of_succ_lt h1)
        exact List.mem_singleton.1 h ▸ isAllowed_digitChar (n % base) (by omega)

lemma isAllowed_of_mem_ipv4Text {n : Nat} {c : Char} (h : c ∈ (ipv4Text n).toList) :
    Domain.isAllowed c := by
  rw [ipv4Text, toList_joinWith] at h
  rcases mem_intercalate h with h | ⟨part, hp, hc⟩
  · exact List.mem_singleton.1 h ▸ rfl
  · obtain ⟨s, hs, rfl⟩ := List.mem_map.1 hp
    obtain ⟨k, -, rfl⟩ := List.mem_map.1 hs
    have hc : c ∈ Nat.toDigits 10 k := by simpa [Nat.toList_repr] using hc
    exact isAllowed_of_mem_toDigits (by decide) (by decide) hc

lemma isAllowed_of_mem_groupsText {gs : List Nat} {c : Char} (h : c ∈ (groupsText gs).toList) :
    c = ':' ∨ Domain.isAllowed c := by
  rw [groupsText, toList_joinWith] at h
  rcases mem_intercalate h with h | ⟨part, hp, hc⟩
  · exact .inl (List.mem_singleton.1 h)
  · obtain ⟨s, hs, rfl⟩ := List.mem_map.1 hp
    obtain ⟨g, -, rfl⟩ := List.mem_map.1 hs
    have hc : c ∈ Nat.toDigits 16 g := by simpa using hc
    exact .inr (isAllowed_of_mem_toDigits (by decide) (by decide) hc)

lemma isAllowed_of_mem_ipv6Text {gs : List Nat} {c : Char} (h : c ∈ (ipv6Text gs).toList) :
    c = ':' ∨ Domain.isAllowed c := by
  unfold ipv6Text at h
  split at h
  · exact isAllowed_of_mem_groupsText h
  · rw [String.toList_append, String.toList_append, List.mem_append, List.mem_append] at h
    rcases h with (h | h) | h
    · exact isAllowed_of_mem_groupsText h
    · exact .inl (by simpa using h)
    · exact isAllowed_of_mem_groupsText h

/-! ## The length of a host -/

lemma hostLength_append {inside : Bool} {cs : List Char} (rest : List Char)
    (h : ∀ c ∈ cs, (c = ':' → inside) ∧ c ≠ '[' ∧ c ≠ ']') :
    hostLength inside (cs ++ rest) = cs.length + hostLength inside rest := by
  induction cs with
  | nil => simp
  | cons c cs ih =>
    have hc := h c List.mem_cons_self
    have hcolon : ¬(c = ':' && !inside) = true := by
      simp only [Bool.and_eq_true, decide_eq_true_eq, Bool.not_eq_true', not_and, Bool.not_eq_false]
      exact hc.1
    rw [List.cons_append, hostLength, if_neg hcolon, if_neg hc.2.1, if_neg hc.2.2,
      ih fun d hd => h d (List.mem_cons_of_mem _ hd), List.length_cons]
    omega

/-- Tells that a host was read from some text. -/
def IsRead (host : Host) : Prop :=
  ∃ cs, ofWeb cs = .ok host

/-- What reading the host of a web address comes to. -/
lemma IsRead.cases {host : Host} (h : host.IsRead) :
    (∃ name cs, Domain.read? cs = some name ∧ name ≠ [] ∧ host = .domain (String.ofList name)) ∨
      (∃ n, host = .ipv4 n) ∨ ∃ gs, host = .ipv6 gs := by
  obtain ⟨cs, h⟩ := h
  unfold ofWeb at h
  split at h
  · unfold bracketed at h
    split at h
    · cases h
      exact .inr (.inr ⟨_, rfl⟩)
    · cases h
  · split at h
    · cases h
    · cases h
    next name hname hread =>
      split at h
      · split at h
        · cases h
          exact .inr (.inl ⟨_, rfl⟩)
        · cases h
      · cases h
        exact .inl ⟨name, cs, hread, fun he => hname (he ▸ rfl), rfl⟩

/-- The text of a host that was read has characters of hosts only. -/
theorem inHost_of_mem_text {host : Host} (h : host.IsRead) {c : Char} (hc : c ∈ host.text.toList) :
    inHost c := by
  rcases h.cases with ⟨name, cs, hread, -, rfl⟩ | ⟨n, rfl⟩ | ⟨gs, rfl⟩
  · rw [text, String.toList_ofList] at hc
    exact (inHost_of_isAllowed (Domain.isAllowed_of_mem_read hread hc)).1
  · exact (inHost_of_isAllowed (isAllowed_of_mem_ipv4Text hc)).1
  · rw [text, String.toList_append, String.toList_append, List.mem_append, List.mem_append] at hc
    rcases hc with (hc | hc) | hc
    · exact List.mem_singleton.1 hc ▸ rfl
    · rcases isAllowed_of_mem_ipv6Text hc with rfl | hc
      · rfl
      · exact (inHost_of_isAllowed hc).1
    · exact List.mem_singleton.1 hc ▸ rfl

/-- The host at the front of a text is found again. -/
theorem hostLength_text {host : Host} (h : host.IsRead) (rest : List Char) :
    hostLength false (host.text.toList ++ rest) =
    host.text.toList.length + hostLength false rest := by
  have hplain : ∀ {c : Char} {inside : Bool}, Domain.isAllowed c →
      (c = ':' → inside) ∧ c ≠ '[' ∧ c ≠ ']' := fun hc =>
    have h := (inHost_of_isAllowed hc).2
    ⟨fun he => absurd he h.1, h.2⟩
  rcases h.cases with ⟨name, cs, hread, -, rfl⟩ | ⟨n, rfl⟩ | ⟨gs, rfl⟩
  · rw [text, String.toList_ofList]
    exact hostLength_append rest fun c hc => hplain (Domain.isAllowed_of_mem_read hread hc)
  · exact hostLength_append rest fun c hc => hplain (isAllowed_of_mem_ipv4Text hc)
  · have hin : ∀ c ∈ (ipv6Text gs).toList, (c = ':' → true) ∧ c ≠ '[' ∧ c ≠ ']' := by
      intro c hc
      rcases isAllowed_of_mem_ipv6Text hc with rfl | hc
      · decide
      · exact hplain hc
    have htext : (ipv6 gs).text.toList = '[' :: ((ipv6Text gs).toList ++ [']']) := by
      simp [text]
    rw [htext, List.cons_append, hostLength, if_neg (by decide), if_pos rfl, List.append_assoc,
      hostLength_append _ hin, List.singleton_append, hostLength, if_neg (by decide),
      if_neg (by decide), if_pos rfl]
    simp
    omega

lemma text_ne_nil {host : Host} (h : host.IsRead) : host.text.toList ≠ [] := by
  rcases h.cases with ⟨name, cs, -, hname, rfl⟩ | ⟨n, rfl⟩ | ⟨gs, rfl⟩
  · simpa [text] using hname
  · intro h
    have := congrArg List.length h
    simp [text, ipv4Text, Text.joinWith] at this
  · simp [text]

/-! ## Hosts that are read from their texts -/

/-- Tells that a host is read from its own text. -/
def IsStable (host : Host) : Prop :=
  ofWeb host.text.toList = .ok host

lemma digit?_digitChar : ∀ d < 16, digit? d.digitChar = some d := by
  decide

/-- The digits of a number are read as the number. -/
lemma number?_toDigits {base : Nat} (h1 : 1 < base) (h16 : base ≤ 16) (n : Nat) :
    number? base (Nat.toDigits base n) = some n := by
  induction n using Nat.strongRecOn with
  | ind n ih =>
    rw [Nat.toDigits_eq_if h1]
    split
    next h => simp [number?, digit?_digitChar n (by omega), h]
    next h =>
      have hd : n % base < base := Nat.mod_lt n (by omega)
      have hn := ih (n / base) (Nat.div_lt_self (by omega) h1)
      rw [number?] at hn
      rw [number?, List.foldlM_append, hn]
      simp [digit?_digitChar (n % base) (by omega), hd, Nat.div_add_mod']

lemma part?_toDigits : ∀ n < 256, part? (Nat.toDigits 10 n) = some n := by
  decide +kernel

end Host

namespace Domain

lemma decode_encode_of_not_mem {cs : List Char} (h : ∀ c ∈ cs, c.toNat < 128 ∧ c ≠ '%') :
    Percent.decode (Utf8.encode cs) = Utf8.encode cs := by
  induction cs with
  | nil => rfl
  | cons c cs ih =>
    have hc := h c List.mem_cons_self
    rw [Utf8.encode_cons_of_lt hc.1,
      Percent.decode_cons (Utf8.ofNat_toNat_ne (d := '%') hc.1 (by decide) hc.2),
      ih fun d hd => h d (List.mem_cons_of_mem _ hd)]

lemma toLower_lt : ∀ {c : Char}, c.toNat < 128 → c.toLower.toNat < 128 :=
  forall_ascii (p := fun c => c.toLower.toNat < 128) (by decide)

lemma hasRight_of_ascii {cs : List Char} (h : ∀ c ∈ cs, c.toNat < 128) : hasRight cs = false := by
  rw [hasRight, List.any_eq_false]
  intro c hc
  rw [Direction.ofChar, if_pos (h c hc)]
  split
  · decide
  · split <;> decide

/-- A domain in ASCII without marked labels stands for itself in lower case. -/
lemma read?_of_ascii {cs : List Char} (h : ∀ c ∈ cs, c.toNat < 128 ∧ c ≠ '%')
    (hmark : ∀ part ∈ (cs.map Char.toLower).splitOn '.', Label.mark.isPrefixOf? part = none) :
    read? cs =
      if (cs.map Char.toLower).all isAllowed then some (cs.map Char.toLower) else none := by
  have hlower : ∀ c ∈ cs.map Char.toLower, c.toNat < 128 := by
    intro c hc
    obtain ⟨d, hd, rfl⟩ := List.mem_map.1 hc
    exact toLower_lt (h d hd).1
  have himages : cs.mapM image? = some (cs.map fun c => [c.toLower]) :=
    mapM_eq_map fun c hc => image?_of_lt (h c hc).1
  have hmeaning : meaning? cs =
      if (cs.map Char.toLower).all isAllowed then some (cs.map Char.toLower) else none := by
    have hflat : (cs.map fun c => [c.toLower]).flatten = cs.map Char.toLower := by
      rw [← List.flatMap_def, ← List.map_eq_flatMap]
    have hany : ((cs.map Char.toLower).any fun c => c.toNat < 128 && !isAllowed c) =
        !(cs.map Char.toLower).all isAllowed := by
      rw [Bool.eq_iff_iff, List.any_eq_true, Bool.not_eq_true', List.all_eq_false]
      constructor
      · rintro ⟨c, hc, hn⟩
        exact ⟨c, hc, by simpa [hlower c hc] using hn⟩
      · rintro ⟨c, hc, hn⟩
        exact ⟨c, hc, by simpa [hlower c hc] using hn⟩
    simp only [meaning?, himages, Option.bind_eq_bind, Option.bind_some, hflat,
      normal_of_ascii hlower, hany]
    cases (cs.map Char.toLower).all isAllowed <;> rfl
  have hlabels : ((cs.map Char.toLower).splitOn '.').mapM Label.read? =
      some (((cs.map Char.toLower).splitOn '.').map fun part => ⟨part, part⟩) := by
    refine mapM_eq_map fun part hpart => ?_
    have hascii : Label.isAscii part := List.all_eq_true.2 fun c hc =>
      decide_eq_true (hlower c (mem_of_mem_splitOn hpart hc))
    rw [Label.read?, hmark part hpart]
    exact if_pos hascii
  have htogether : standTogether
      (((cs.map Char.toLower).splitOn '.').map fun part => ⟨part, part⟩) := by
    have hright : ((((cs.map Char.toLower).splitOn '.').map fun part => (⟨part, part⟩ : Label)).any
        fun l => hasRight l.characters) = false := by
      rw [List.any_eq_false]
      intro l hl
      obtain ⟨part, hpart, rfl⟩ := List.mem_map.1 hl
      simp [hasRight_of_ascii fun c hc => hlower c (mem_of_mem_splitOn hpart hc)]
    simp [standTogether, hright]
  rw [read?, decode_encode_of_not_mem h, Utf8.decode_encode, hmeaning]
  split
  · simp only [Option.bind_eq_bind, Option.bind_some, hlabels, htogether, if_true, List.map_map]
    have := @List.intercalate_splitOn _ (cs.map Char.toLower) _ _ '.'
    simpa [List.intercalate, Function.comp_def] using this
  · rfl

/-- A domain without the first letter of the mark has no marked labels. -/
lemma isPrefixOf?_mark {cs : List Char} (h : 'x' ∉ cs) :
    ∀ part ∈ cs.splitOn '.', Label.mark.isPrefixOf? part = none := by
  intro part hpart
  rw [Option.eq_none_iff_forall_ne_some]
  intro rest hrest
  refine h (mem_of_mem_splitOn hpart ?_)
  rw [← List.append_eq_of_isPrefixOf?_eq_some hrest]
  exact List.mem_append_left _ (by decide)

/-- A domain in lower case without marked labels stands for itself. -/
lemma read?_eq_self {cs : List Char} (h : ∀ c ∈ cs, isAllowed c ∧ c.toLower = c)
    (hmark : ∀ part ∈ cs.splitOn '.', Label.mark.isPrefixOf? part = none) : read? cs = some cs := by
  have hlower : cs.map Char.toLower = cs := by
    rw [List.map_congr_left fun c hc => (h c hc).2, List.map_id']
  have hall : cs.all isAllowed := List.all_eq_true.2 fun c hc => (h c hc).1
  have hascii : ∀ c ∈ cs, c.toNat < 128 ∧ c ≠ '%' := by
    intro c hc
    have hc := (Host.inHost_of_isAllowed (h c hc).1).1
    simp only [Host.inHost, Bool.and_eq_true, decide_eq_true_eq] at hc
    refine ⟨by omega, fun he => ?_⟩
    subst he
    exact absurd hc.2 (by decide)
  rw [read?_of_ascii hascii (by rwa [hlower]), hlower, if_pos hall]

end Domain

namespace Host

/-- Texts without dots, joined by dots, are the parts of what they make. -/
lemma parts_intercalate {ps : List (List Char)} (hdot : ∀ p ∈ ps, '.' ∉ p) (hne : ∀ p ∈ ps, p ≠ [])
    (hps : ps ≠ []) : parts (List.intercalate ['.'] ps) = ps := by
  rw [parts, List.splitOn_intercalate '.' hdot hps]
  split
  next before rest h =>
    have : [] ∈ ps := List.mem_reverse.1 (h ▸ List.mem_cons_self)
    exact absurd rfl (hne _ this)
  next => exact List.reverse_reverse ps

/-- The four bytes of an address. -/
def bytesOf (n : Nat) : List Nat :=
  [n / 16777216, n / 65536 % 256, n / 256 % 256, n % 256]

lemma toList_ipv4Text (n : Nat) :
    (ipv4Text n).toList = List.intercalate ['.'] ((bytesOf n).map (Nat.toDigits 10)) := by
  rw [ipv4Text, toList_joinWith]
  simp [bytesOf, Nat.toList_repr]

lemma parts_ipv4Text (n : Nat) :
    parts (ipv4Text n).toList = (bytesOf n).map (Nat.toDigits 10) := by
  rw [toList_ipv4Text]
  refine parts_intercalate ?_ ?_ (by simp [bytesOf])
  · intro p hp hdot
    obtain ⟨k, -, rfl⟩ := List.mem_map.1 hp
    exact absurd (Nat.isDigit_of_mem_toDigits (by decide) (by decide) hdot) (by decide)
  · intro p hp
    obtain ⟨k, -, rfl⟩ := List.mem_map.1 hp
    exact Nat.toDigits_ne_nil

/-- An address of four bytes is the one that its text stands for. -/
lemma ipv4?_ipv4Text {n : Nat} (h : n < 4294967296) : ipv4? (ipv4Text n).toList = some n := by
  have hbytes : ∀ b ∈ bytesOf n, b < 256 := by
    simp only [bytesOf, List.mem_cons, List.not_mem_nil, or_false]
    omega
  have hnumbers : ((bytesOf n).map (Nat.toDigits 10)).mapM part? = some (bytesOf n) :=
    mapM_map_eq_self fun b hb => part?_toDigits b (hbytes b hb)
  rw [ipv4?, parts_ipv4Text, hnumbers]
  simp [bytesOf]
  omega

lemma toLower_of_isDigit {c : Char} (h : c.isDigit) : c.toLower = c := by
  have hc : c.toNat < 128 := toNat_lt_of_isAlphanum (by simp [Char.isAlphanum, h])
  revert h
  exact forall_ascii (p := fun c => c.isDigit → c.toLower = c) (by decide) hc

/-- An address of four bytes is read from its text. -/
theorem isStable_ipv4 {n : Nat} (h : n < 4294967296) : (ipv4 n).IsStable := by
  have hdigit : ∀ c ∈ (ipv4Text n).toList, c = '.' ∨ c.isDigit := by
    intro c hc
    rw [toList_ipv4Text] at hc
    rcases mem_intercalate hc with hc | ⟨p, hp, hc⟩
    · exact .inl (List.mem_singleton.1 hc)
    · obtain ⟨k, -, rfl⟩ := List.mem_map.1 hp
      exact .inr (Nat.isDigit_of_mem_toDigits (by decide) (by decide) hc)
  have hread : Domain.read? (ipv4Text n).toList = some (ipv4Text n).toList := by
    refine Domain.read?_eq_self (fun c hc => ⟨isAllowed_of_mem_ipv4Text hc, ?_⟩)
      (Domain.isPrefixOf?_mark fun hx => absurd (hdigit 'x' hx) (by decide))
    rcases hdigit c hc with rfl | hc
    · rfl
    · exact toLower_of_isDigit hc
  have hhead : (ipv4Text n).toList.head? ≠ some '[' := fun he =>
    absurd (hdigit '[' (List.mem_of_mem_head? he)) (by decide)
  have hends : endsInNumber (ipv4Text n).toList := by
    have hlast : (Nat.toDigits 10 (n % 256)).all Char.isDigit :=
      List.all_eq_true.2 fun c hc => Nat.isDigit_of_mem_toDigits (by decide) (by decide) hc
    rw [endsInNumber, parts_ipv4Text]
    simp [bytesOf, hlast]
  rw [IsStable, text, ofWeb, if_neg hhead, hread]
  split
  next he => cases he
  next he => exact absurd (Option.some.inj he ▸ hends) (by decide)
  next name _ hname =>
    cases hname
    rw [if_pos hends, ipv4?_ipv4Text h]

/-- Bytes at the front of an address leave room for those at its end. -/
lemma fill_le {front : List Nat} {i last : Nat} (hfront : ∀ b ∈ front, b ≤ 255)
    (hlen : i + front.length ≤ 4) :
    (front.zipIdx i).foldl (fun n p => n + p.1 * Nat.pow 256 (3 - p.2)) last
      + Nat.pow 256 (4 - (i + front.length)) ≤ last + Nat.pow 256 (4 - i) := by
  induction front generalizing i last with
  | nil => exact Nat.le_refl _
  | cons b rest ih =>
    rw [List.length_cons] at hlen ⊢
    have hb := hfront b List.mem_cons_self
    have hrest : (i + 1) + rest.length ≤ 4 := by omega
    have ih := @ih (i + 1) (last + b * Nat.pow 256 (3 - i))
      (fun c hc => hfront c (List.mem_cons_of_mem _ hc)) hrest
    have hstep : Nat.pow 256 (4 - i) = Nat.pow 256 (3 - i) * 256 := by
      rw [show 4 - i = (3 - i) + 1 by omega]
      rfl
    have hmul := Nat.mul_le_mul_right (Nat.pow 256 (3 - i)) hb
    rw [List.zipIdx_cons, List.foldl_cons, hstep]
    dsimp only
    rw [show 4 - (i + 1) = 3 - i by omega] at ih
    rw [show i + (rest.length + 1) = i + 1 + rest.length by omega]
    generalize Nat.pow 256 (4 - (i + 1 + rest.length)) = room at *
    generalize Nat.pow 256 (3 - i) = w at *
    omega

/-- An address of four bytes fits them. -/
lemma lt_of_ipv4? {cs : List Char} {n : Nat} (h : ipv4? cs = some n) : n < 4294967296 := by
  unfold ipv4? at h
  simp only [] at h
  split at h
  · cases h
  next hlen =>
    simp only [Option.bind_eq_bind, Option.bind_eq_some_iff] at h
    obtain ⟨ns, hns, last, hlast, h⟩ := h
    have hcount : ns.length ≤ 4 := by
      rw [← (mapM_eq_some_iff.1 hns).length_eq]
      omega
    split at h
    · cases h
    next hfit =>
      cases h
      simp only [Bool.or_eq_true, decide_eq_true_eq, List.any_eq_true, not_or, not_exists, not_and,
        Nat.not_lt, ge_iff_le, gt_iff_lt, Nat.not_le] at hfit
      have hne : ns ≠ [] := fun he => by simp [he] at hlast
      have hfront : ns.dropLast.length ≤ 3 := by
        rw [List.length_dropLast]
        omega
      have hfill := @fill_le ns.dropLast 0 last hfit.2 (by omega)
      rw [Nat.zero_add] at hfill
      have hall : Nat.pow 256 (4 - 0) = 4294967296 := rfl
      rw [hall] at hfill
      have hroom := hfit.1
      generalize Nat.pow 256 (4 - ns.dropLast.length) = room at hfill hroom
      omega

lemma toLower_toLower : ∀ {c : Char}, c.toNat < 128 → c.toLower.toLower = c.toLower :=
  forall_ascii (p := fun c => c.toLower.toLower = c.toLower) (by decide)

/-- Tells that the text of a host is plain: in ASCII, with nothing escaped, without brackets around
it, and without marked labels. -/
structure IsPlain (cs : List Char) : Prop where
  ascii : ∀ c ∈ cs, c.toNat < 128 ∧ c ≠ '%'
  head : cs.head? ≠ some '['
  unmarked : ∀ part ∈ (cs.map Char.toLower).splitOn '.', Domain.Label.mark.isPrefixOf? part = none

/-- A host that was read from a plain text is read from its own text. -/
theorem IsPlain.isStable {cs : List Char} (h : IsPlain cs) {host : Host}
    (hread : ofWeb cs = .ok host) : host.IsStable := by
  obtain ⟨hascii, hhead, hmark⟩ := h
  rw [ofWeb, if_neg hhead, Domain.read?_of_ascii hascii hmark] at hread
  by_cases hall : (cs.map Char.toLower).all Domain.isAllowed
  · have hname : Domain.read? (cs.map Char.toLower) = some (cs.map Char.toLower) := by
      refine Domain.read?_eq_self (fun c hc => ⟨List.all_eq_true.1 hall c hc, ?_⟩) hmark
      obtain ⟨d, hd, rfl⟩ := List.mem_map.1 hc
      exact toLower_toLower (hascii d hd).1
    rw [if_pos hall] at hread
    split at hread
    next he => cases he
    next => cases hread
    next name hne he =>
      cases he
      split at hread
      next hends =>
        split at hread
        next n hn =>
          cases hread
          exact isStable_ipv4 (lt_of_ipv4? hn)
        next => cases hread
      next hends =>
        cases hread
        have hlow : (cs.map Char.toLower).head? ≠ some '[' := fun he =>
          absurd (List.all_eq_true.1 hall _ (List.mem_of_mem_head? he)) (by decide)
        rw [IsStable, text, String.toList_ofList, ofWeb, if_neg hlow, hname]
        split
        next he => cases he
        next he => exact absurd (Option.some.inj he) hne
        next name _ he =>
          cases he
          rw [if_neg hends]
  · rw [if_neg hall] at hread
    cases hread

end Host

end Url

end OperationGate
