import OperationGate.Operation.Kind
import OperationGate.Proofs.Url.Host

/-!
# Addresses below an origin

An origin is an address that says only who is addressed, over the web; an address that was read and
has neither credentials nor a path, a query and a fragment is one (`isOrigin_of_read`). A path of
plain segments appended to the text of an origin is read as the origin with that path
(`read_below`), if the host of the origin is read from its own text.
-/

namespace OperationGate.Url

open OperationGate.Text

/-! ## Segments -/

/-- The characters that stand for themselves everywhere in an address. -/
def isUnreserved (c : Char) : Bool :=
  c.isAlphanum || c = '-' || c = '.' || c = '_' || c = '~'

/-- A part of a path that is taken as it is: it is not empty, holds unreserved characters only, and
does not stay where it is or lead up. -/
structure IsSegment (cs : List Char) : Prop where
  ne_nil : cs ≠ []
  ne_dot : cs ≠ ['.']
  ne_dots : cs ≠ ['.', '.']
  unreserved : ∀ c ∈ cs, isUnreserved c

lemma isUnreserved_spec {c : Char} (h : isUnreserved c) :
    c.toNat < 128 ∧ ' ' < c ∧ c ≠ '/' ∧ c ≠ '\\' ∧ c ≠ '%' ∧ endsPath c = false ∧
    Percent.inPath c := by
  have hc : c.toNat < 128 := by
    simp only [isUnreserved, Bool.or_eq_true, decide_eq_true_eq] at h
    rcases h with (((h | rfl) | rfl) | rfl) | rfl
    · exact toNat_lt_of_isAlphanum h
    all_goals decide
  refine ⟨hc, ?_⟩
  revert h
  refine forall_ascii (p := fun c => isUnreserved c →
    ' ' < c ∧ c ≠ '/' ∧ c ≠ '\\' ∧ c ≠ '%' ∧ endsPath c = false ∧ Percent.inPath c) ?_ hc
  decide

lemma dots_eq_self {cs : List Char} (h : '%' ∉ cs) : dots cs = cs := by
  fun_induction dots cs with
  | case1 => simp at h
  | case2 => simp at h
  | case3 c rest hc hc' ih => rw [ih fun hr => h (List.mem_cons_of_mem _ hr)]
  | case4 => rfl

/-- Segments are followed one by one. -/
lemma follow_segments {above segments : List (List Char)} (h : ∀ s ∈ segments, IsSegment s) :
    follow .web above segments = segments.reverse ++ above := by
  induction segments generalizing above with
  | nil => rfl
  | cons s rest ih =>
    have hs := h s List.mem_cons_self
    have hdots : dots s = s :=
      dots_eq_self fun hp => (isUnreserved_spec (hs.unreserved _ hp)).2.2.2.2.1 rfl
    have hpath : Percent.encode Percent.inPath s = s :=
      Percent.encode_eq_self fun c hc => (isUnreserved_spec (hs.unreserved c hc)).2.2.2.2.2.2
    rw [follow, hdots, if_neg hs.ne_dots, if_neg hs.ne_dot, if_neg (by simp), hpath,
      ih fun t ht => h t (List.mem_cons_of_mem _ ht)]
    simp

/-- The path through segments. -/
def pathOf (segments : List (List Char)) : List Char :=
  segments.flatMap ('/' :: ·)

lemma pathOf_cons (s : List Char) (rest : List (List Char)) :
    pathOf (s :: rest) = '/' :: s ++ pathOf rest := rfl

/-- A path is a slash and its segments with slashes between them. -/
lemma pathOf_eq_intercalate {segments : List (List Char)} (h : segments ≠ []) :
    pathOf segments = '/' :: List.intercalate ['/'] segments := by
  induction segments with
  | nil => exact absurd rfl h
  | cons s rest ih =>
    cases rest with
    | nil => simp [pathOf]
    | cons t rest =>
      rw [pathOf_cons, ih (by simp), List.intercalate_cons_cons]
      simp

lemma isUnreserved_or_of_mem_pathOf {segments : List (List Char)} (h : ∀ s ∈ segments, IsSegment s)
    {c : Char} (hc : c ∈ pathOf segments) : c = '/' ∨ isUnreserved c := by
  obtain ⟨s, hs, hcs⟩ := List.mem_flatMap.1 hc
  rcases List.mem_cons.1 hcs with rfl | hcs
  · exact .inl rfl
  · exact .inr ((h s hs).unreserved c hcs)

lemma segmentsOf_intercalate {segments : List (List Char)} (hne : segments ≠ [])
    (h : ∀ s ∈ segments, IsSegment s) :
    segmentsOf .web (List.intercalate ['/'] segments) = segments := by
  induction segments with
  | nil => exact absurd rfl hne
  | cons s rest ih =>
    have hs : ∀ c ∈ s, SchemeSort.web.isSlash c = false := by
      intro c hc
      have hc := isUnreserved_spec ((h s List.mem_cons_self).unreserved c hc)
      simp [SchemeSort.isSlash, hc.2.2.1, hc.2.2.2.1]
    cases rest with
    | nil => rw [List.intercalate_singleton, segmentsOf, List.splitOnP_eq_singleton hs]
    | cons t rest =>
      have ih := ih (List.cons_ne_nil _ _) fun u hu => h u (List.mem_cons_of_mem _ hu)
      rw [segmentsOf] at ih
      rw [List.intercalate_cons_cons, List.append_assoc, segmentsOf, List.singleton_append,
        List.splitOnP_append_cons_of_forall_mem hs '/' rfl, ih]

/-- The path of segments is read as it is, up to the query or the end. -/
lemma pathFrom_segments {segments : List (List Char)} (hne : segments ≠ [])
    (h : ∀ s ∈ segments, IsSegment s) {rest : List Char} (hrest : ∀ c ∈ rest.head?, endsPath c) :
    pathFrom .web [] (List.intercalate ['/'] segments ++ rest) =
      (String.ofList (pathOf segments), rest) := by
  have hmem : ∀ c ∈ List.intercalate ['/'] segments, c = '/' ∨ isUnreserved c := fun c hc =>
    isUnreserved_or_of_mem_pathOf h
      (by rw [pathOf_eq_intercalate hne]; exact List.mem_cons_of_mem _ hc)
  have hin : ∀ c ∈ List.intercalate ['/'] segments, (!endsPath c) = true := by
    intro c hc
    rcases hmem c hc with rfl | hc
    · decide
    · simp [(isUnreserved_spec hc).2.2.2.2.2.1]
  have hstop : ∀ c ∈ rest.head?, (!endsPath c) = false := fun c hc => by simp [hrest c hc]
  rw [pathFrom, segmentsFrom, takeWhile_front hin hstop, dropWhile_front hin hstop,
    segmentsOf_intercalate hne h, List.reverse_nil, follow_segments h]
  simp [pathText, pathOf_eq_intercalate hne]

/-! ## Origins -/

/-- An address that says only who is addressed, over the web: a scheme, a host and a port that is
not the usual one. -/
structure IsOrigin (u : Url) : Prop where
  isWeb : u.scheme = "http" ∨ u.scheme = "https"
  place : ∃ host port, u.authority = some ⟨"", "", host, port⟩ ∧ host.IsRead ∧
    ∀ p ∈ port, p ≤ 65535 ∧ usualPort? u.scheme ≠ some p
  path : u.path = "/"
  query : u.query = none
  fragment : u.fragment = none

/-- The text of a port, with the colon before it. -/
def portText (port : Option Nat) : List Char :=
  port.elim [] fun p => ':' :: Nat.toDigits 10 p

lemma inHost_of_mem_portText {port : Option Nat} {c : Char} (h : c ∈ portText port) :
    Host.inHost c := by
  cases port with
  | none => cases h
  | some p =>
    rcases List.mem_cons.1 h with rfl | h
    · rfl
    · exact (Host.inHost_of_isAllowed (Host.isAllowed_of_mem_toDigits (by decide) (by decide) h)).1

lemma inHost_spec {c : Char} (h : Host.inHost c) :
    ' ' < c ∧ c ≠ '@' ∧ SchemeSort.web.isSlash c = false ∧ endsPath c = false := by
  have hc : c.toNat < 128 := by
    simp only [Host.inHost, Bool.and_eq_true, decide_eq_true_eq] at h
    omega
  revert h
  refine forall_ascii (p := fun c => Host.inHost c →
    ' ' < c ∧ c ≠ '@' ∧ SchemeSort.web.isSlash c = false ∧ endsPath c = false) ?_ hc
  decide

/-- A port that is not the usual one is read from its text. -/
lemma port?_toDigits {scheme : String} {p : Nat} (hp : p ≤ 65535)
    (husual : usualPort? scheme ≠ some p) : port? scheme (Nat.toDigits 10 p) = .ok (some p) := by
  rw [port?, Host.number?_toDigits (by decide) (by decide)]
  simp [Nat.not_lt.2 hp, husual]

/-- The authority of an origin is read from its text, with the host that the text of the host stands
for. -/
lemma authorityOf_text {scheme : String} {last : Bool} {host : Host} {port : Option Nat}
    (hhost : host.IsRead) (hport : ∀ p ∈ port, p ≤ 65535 ∧ usualPort? scheme ≠ some p) :
    authorityOf scheme .web last (host.text.toList ++ portText port) =
      (Host.ofWeb host.text.toList).map fun h => (⟨"", "", h, port⟩, []) := by
  have hcredentials : splitCredentials? (host.text.toList ++ portText port) = none := by
    have hat : '@' ∉ (host.text.toList ++ portText port).reverse := by
      rw [List.mem_reverse, List.mem_append]
      rintro (h | h)
      · exact (inHost_spec (Host.inHost_of_mem_text hhost h)).2.1 rfl
      · exact (inHost_spec (inHost_of_mem_portText h)).2.1 rfl
    rw [splitCredentials?, cutAt?_of_not_mem hat]
    rfl
  have hlength : hostLength false (host.text.toList ++ portText port) =
      host.text.toList.length := by
    rw [Host.hostLength_text hhost]
    cases port <;> rfl
  have hdrop : (host.text.toList ++ portText port).drop (host.text.toList.length + 1) =
      port.elim [] (Nat.toDigits 10) := by
    rw [← List.drop_drop, List.drop_left]
    cases port <;> rfl
  have hplain : ∀ c ∈ port.elim [] (Nat.toDigits 10), decide (c ≠ '\\') = true := by
    intro c hc
    refine decide_eq_true fun he => ?_
    subst he
    cases port with
    | none => cases hc
    | some p => exact absurd (Nat.isDigit_of_mem_toDigits (by decide) (by decide) hc) (by decide)
  have hread : port? scheme (port.elim [] (Nat.toDigits 10)) = .ok port := by
    cases port with
    | none => simp [port?, Host.number?]
    | some p => exact port?_toDigits (hport p rfl).1 (hport p rfl).2
  have hname : host.text.toList.isEmpty = false := by
    simpa using Host.text_ne_nil hhost
  simp only [authorityOf, hcredentials, Option.getD_none, hlength, List.take_left, hname, hdrop,
    List.takeWhile_eq_self_iff.2 hplain, List.dropWhile_eq_nil_iff.2 hplain, hread]
  cases hweb : Host.ofWeb host.text.toList with
  | error e =>
    simp [cutAt?]
    rfl
  | ok h =>
    simp [cutAt?]
    rfl

/-- The address of a path below an origin is read as the place with the path. -/
lemma afterSlashes_text {scheme : String} {host : Host} {port : Option Nat}
    (hhost : host.IsRead) (hport : ∀ p ∈ port, p ≤ 65535 ∧ usualPort? scheme ≠ some p)
    {segments : List (List Char)} (hne : segments ≠ []) (h : ∀ s ∈ segments, IsSegment s) :
    afterSlashes scheme .web (host.text.toList ++ portText port ++ pathOf segments) =
      (Host.ofWeb host.text.toList).map fun h =>
        ⟨scheme, some ⟨"", "", h, port⟩, String.ofList (pathOf segments), none, none⟩ := by
  have hplace : ∀ c ∈ host.text.toList ++ portText port,
      (!(SchemeSort.web.isSlash c || endsPath c)) = true := by
    intro c hc
    have hc : Host.inHost c := by
      rcases List.mem_append.1 hc with hc | hc
      · exact Host.inHost_of_mem_text hhost hc
      · exact inHost_of_mem_portText hc
    simp [(inHost_spec hc).2.2]
  have hpath := pathOf_eq_intercalate hne
  have hstop : ∀ c ∈ (pathOf segments).head?, (!(SchemeSort.web.isSlash c || endsPath c)) =
      false := by
    intro c hc
    rw [hpath] at hc
    obtain rfl : '/' = c := by simpa using hc
    rfl
  have hafter : pathAfterAuthority .web (pathOf segments) =
      (String.ofList (pathOf segments), []) := by
    have hread := @pathFrom_segments segments hne h [] (by simp)
    rw [List.append_nil] at hread
    rw [hpath, pathAfterAuthority, if_pos (show SchemeSort.web.isSlash '/' from rfl),
      hread, ← hpath]
  simp only [afterSlashes, takeWhile_front hplace hstop, dropWhile_front hplace hstop,
    authorityOf_text hhost hport]
  cases hweb : Host.ofWeb host.text.toList with
  | error e => rfl
  | ok h =>
    simp only [Except.map, bind, Except.bind, List.nil_append, hafter]
    rfl

lemma cleaned_ofList {cs : List Char} (h : ∀ c ∈ cs, ' ' < c) :
    cleaned (String.ofList cs) = cs := by
  have hdrop : ∀ {cs : List Char}, (∀ c ∈ cs, ' ' < c) → cs.dropWhile (· ≤ ' ') = cs := by
    intro cs h
    cases cs with
    | nil => rfl
    | cons c cs =>
      have hc : ¬c ≤ ' ' := Char.not_le.2 (h c List.mem_cons_self)
      rw [List.dropWhile_cons_of_neg (by simpa using hc)]
  rw [cleaned, String.toList_ofList, hdrop h, hdrop fun c hc => h c (List.mem_reverse.1 hc),
    List.reverse_reverse, List.filter_eq_self]
  intro c hc
  have hc := h c hc
  have hne : ∀ d : Char, ¬ ' ' < d → c ≠ d := fun d hd he => hd (he ▸ hc)
  simp [hne '\t' (by decide), hne '\n' (by decide), hne '\r' (by decide)]

lemma splitScheme?_of_web {scheme : String} (h : scheme = "http" ∨ scheme = "https")
    (rest : List Char) : splitScheme? (scheme.toList ++ ':' :: rest) = some (scheme, rest) := by
  rcases h with rfl | rfl
  · simp [splitScheme?, inScheme]
  · simp [splitScheme?, inScheme]

/-- A web address is read from what follows its slashes. -/
lemma read_of_web {scheme : String} (hscheme : scheme = "http" ∨ scheme = "https")
    {rest : List Char} (hrest : ∀ c ∈ rest, ' ' < c)
    (hstart : rest.dropWhile SchemeSort.web.isSlash = rest) :
    read (String.ofList (scheme.toList ++ ':' :: '/' :: '/' :: rest)) =
    afterSlashes scheme .web rest := by
  have hclean : cleaned (String.ofList (scheme.toList ++ ':' :: '/' :: '/' :: rest)) =
      scheme.toList ++ ':' :: '/' :: '/' :: rest := by
    have hletters : ∀ c ∈ scheme.toList ++ [':', '/', '/'], ' ' < c := by
      have hall : (scheme.toList ++ [':', '/', '/']).all (' ' < ·) := by
        rcases hscheme with rfl | rfl <;> decide
      exact fun c hc => of_decide_eq_true (List.all_eq_true.1 hall c hc)
    refine cleaned_ofList fun c hc => ?_
    rw [show scheme.toList ++ ':' :: '/' :: '/' :: rest =
      scheme.toList ++ [':', '/', '/'] ++ rest by simp, List.mem_append] at hc
    exact hc.elim (hletters c) (hrest c)
  have hsort : SchemeSort.ofScheme scheme = .web := by
    rcases hscheme with rfl | rfl <;> decide
  have hslashes : ('/' :: '/' :: rest).dropWhile SchemeSort.web.isSlash = rest := hstart
  unfold read resolve
  simp only [hclean, splitScheme?_of_web hscheme, hsort, hslashes]

/-- A path below an origin is read as it is, with the host that the text of the origin's host stands
for. -/
lemma read_pathOf {scheme : String} (hscheme : scheme = "http" ∨ scheme = "https") {host : Host}
    {port : Option Nat} (hhost : host.IsRead)
    (hport : ∀ p ∈ port, p ≤ 65535 ∧ usualPort? scheme ≠ some p)
    {segments : List (List Char)} (hne : segments ≠ []) (h : ∀ s ∈ segments, IsSegment s) :
    read (String.ofList (scheme.toList ++ ':' :: '/' :: '/' ::
        (host.text.toList ++ portText port ++ pathOf segments))) =
      (Host.ofWeb host.text.toList).map fun h =>
        ⟨scheme, some ⟨"", "", h, port⟩, String.ofList (pathOf segments), none, none⟩ := by
  have hplace : ∀ c ∈ host.text.toList ++ portText port ++ pathOf segments, ' ' < c := by
    intro c hc
    rcases List.mem_append.1 hc with hc | hc
    · rcases List.mem_append.1 hc with hc | hc
      · exact (inHost_spec (Host.inHost_of_mem_text hhost hc)).1
      · exact (inHost_spec (inHost_of_mem_portText hc)).1
    · rcases isUnreserved_or_of_mem_pathOf h hc with rfl | hc
      · decide
      · exact (isUnreserved_spec hc).2.1
  have hslashes : (host.text.toList ++ portText port ++ pathOf segments).dropWhile
      SchemeSort.web.isSlash = host.text.toList ++ portText port ++ pathOf segments := by
    cases htext : host.text.toList with
    | nil => exact absurd htext (Host.text_ne_nil hhost)
    | cons c cs =>
      have hc :=
        (inHost_spec (Host.inHost_of_mem_text hhost (c := c) (htext ▸ List.mem_cons_self))).2.2.1
      rw [List.cons_append, List.cons_append, List.dropWhile_cons_of_neg (by simp [hc])]
  rw [read_of_web hscheme hplace hslashes, afterSlashes_text hhost hport hne h]

/-! ## Origins that were read -/

lemma scheme_of_ofFile {cs : List Char} {u : Url} (h : ofFile cs = .ok u) : u.scheme = "file" := by
  unfold ofFile at h
  split at h
  · dsimp only at h
    split at h
    · split at h
      · cases h; rfl
      · obtain ⟨host, -, h⟩ := bind_eq_ok.1 h
        split at h <;> cases h <;> rfl
    · cases h; rfl
  · cases h; rfl
  · cases h; rfl

lemma port_of_port? {scheme : String} {cs : List Char} {port : Option Nat}
    (h : port? scheme cs = .ok port) : ∀ p ∈ port, p ≤ 65535 ∧ usualPort? scheme ≠ some p := by
  unfold port? at h
  split at h
  · cases h
  next n hn =>
    split at h
    · cases h
    next hle =>
      split at h
      · cases h
        exact fun _ hp => nomatch hp
      next husual =>
        cases h
        intro p hp
        cases hp
        simp only [Bool.or_eq_true, decide_eq_true_eq, not_or] at husual
        exact ⟨Nat.not_lt.1 hle, husual.2⟩

/-- The host and the port of a web address are ones that were read. -/
lemma place_of_authorityOf {scheme : String} {last : Bool} {cs rest : List Char} {a : Authority}
    (h : authorityOf scheme .web last cs = .ok (a, rest)) :
    a.host.IsRead ∧ ∀ p ∈ a.port, p ≤ 65535 ∧ usualPort? scheme ≠ some p := by
  unfold authorityOf at h
  dsimp only at h
  split at h
  · cases h
  · split at h
    · cases h
    · rw [if_pos rfl] at h
      obtain ⟨host, hhost, h⟩ := bind_eq_ok.1 h
      obtain ⟨port, hport, h⟩ := bind_eq_ok.1 h
      split at h
      · cases h
      · cases h
        exact ⟨⟨_, hhost⟩, port_of_port? hport⟩

lemma afterSlashes_eq_ok {scheme : String} {sort : SchemeSort} {cs : List Char} {u : Url}
    (h : afterSlashes scheme sort cs = .ok u) :
    u.scheme = scheme ∧ ∃ last place a left, authorityOf scheme sort last place = .ok (a, left) ∧
      u.authority = some a := by
  unfold afterSlashes at h
  dsimp only at h
  obtain ⟨⟨a, left⟩, ha, h⟩ := bind_eq_ok.1 h
  cases h
  exact ⟨rfl, _, _, a, left, ha, rfl⟩

/-- An address over the web without credentials, path, query and fragment is an origin. -/
theorem isOrigin_of_read {s : String} {u : Url} (h : read s = .ok u)
    (hweb : u.scheme = "http" ∨ u.scheme = "https")
    (hcredentials : ∀ a ∈ u.authority, a.user = "" ∧ a.password = "") (hpath : u.path = "/")
    (hquery : u.query = none) (hfragment : u.fragment = none) : u.IsOrigin := by
  have hother : ∀ {scheme : String}, u.scheme = scheme → SchemeSort.ofScheme scheme ≠ .web →
      False := by
    rintro scheme rfl hsort
    rcases hweb with hw | hw <;> exact hsort (hw ▸ rfl)
  unfold read resolve at h
  dsimp only at h
  split at h
  next scheme rest hsplit =>
    split at h
    next hsort => exact (hother (scheme_of_ofFile h) (by decide)).elim
    next hsort =>
      obtain ⟨rfl, last, place, a, left, ha, hu⟩ := afterSlashes_eq_ok h
      obtain ⟨hhost, hport⟩ := place_of_authorityOf ha
      obtain ⟨huser, hpassword⟩ := hcredentials a hu
      have ha : a = ⟨"", "", a.host, a.port⟩ := by
        rw [Authority.mk.injEq]
        exact ⟨huser, hpassword, rfl, rfl⟩
      exact ⟨hweb, ⟨a.host, a.port, ha ▸ hu, hhost, hport⟩, hpath, hquery, hfragment⟩
    next hsort =>
      split at h
      · exact (hother (afterSlashes_eq_ok h).1 (by simp [hsort])).elim
      · cases h
        have hscheme : (withoutAuthority scheme rest).scheme = scheme := by
          unfold withoutAuthority
          split <;> rfl
        exact (hother hscheme (by simp [hsort])).elim
  next => cases h
  next he => cases he

/-! ## The text of an origin -/

lemma dropEndChar_append {c : Char} {cs : List Char} (h : cs.getLast? ≠ some c) (n : Nat) :
    dropEndChar c (String.ofList (cs ++ List.replicate n c)) = String.ofList cs := by
  have hcs : cs.reverse.dropWhile (· == c) = cs.reverse := by
    cases hr : cs.reverse with
    | nil => rfl
    | cons d ds =>
      have hd : d ≠ c := by
        intro hd
        refine h ?_
        rw [← List.head?_reverse, hr, hd]
        rfl
      rw [List.dropWhile_cons_of_neg (by simpa using hd)]
  have hend : ∀ d ∈ List.replicate n c, (d == c) = true := fun d hd => by
    simp [(List.mem_replicate.1 hd).2]
  rw [dropEndChar, dropEndWhile, String.toList_ofList, List.reverse_append, List.reverse_replicate,
    List.dropWhile_append_of_pos hend, hcs, List.reverse_reverse]

/-- The text of an origin, without the slash at its end. -/
lemma dropEndChar_text {u : Url} {host : Host} {port : Option Nat}
    (ha : u.authority = some ⟨"", "", host, port⟩) (hpath : u.path = "/") (hquery : u.query = none)
    (hfragment : u.fragment = none) (hhost : host.IsRead) :
    dropEndChar '/' u.text =
      String.ofList (u.scheme.toList ++
        ':' :: '/' :: '/' :: (host.text.toList ++ portText port)) := by
  have htext : u.text = String.ofList (u.scheme.toList ++ ':' :: '/' :: '/' ::
      (host.text.toList ++ portText port) ++ List.replicate 1 '/') := by
    rw [← String.toList_inj, String.toList_ofList]
    cases port <;>
      simp [text, ha, hpath, hquery, hfragment, Authority.text, portText, Nat.toList_repr]
  rw [htext, dropEndChar_append]
  intro hlast
  have hne : host.text.toList ++ portText port ≠ [] := by
    simp [Host.text_ne_nil hhost]
  rw [show u.scheme.toList ++ ':' :: '/' :: '/' :: (host.text.toList ++ portText port) =
      u.scheme.toList ++ [':', '/', '/'] ++ (host.text.toList ++ portText port) by simp,
    List.getLast?_append_of_ne_nil _ hne] at hlast
  have hc : Host.inHost '/' := by
    rcases List.mem_append.1 (List.mem_of_getLast? hlast) with hc | hc
    · exact Host.inHost_of_mem_text hhost hc
    · exact inHost_of_mem_portText hc
  exact absurd hc (by decide)

/-- A path below an origin, appended to the origin's text without the slash at its end, is read as
the origin with the path, if the origin's host is read from its text; otherwise nothing is read. -/
theorem read_below {u : Url} (h : u.IsOrigin) {segments : List (List Char)} (hne : segments ≠ [])
    (hsegments : ∀ s ∈ segments, IsSegment s) :
    ∃ host port, u.authority = some ⟨"", "", host, port⟩ ∧
      read (dropEndChar '/' u.text ++ String.ofList (pathOf segments)) =
        (Host.ofWeb host.text.toList).map fun h =>
          ⟨u.scheme, some ⟨"", "", h, port⟩, String.ofList (pathOf segments), none, none⟩ := by
  obtain ⟨host, port, ha, hhost, hport⟩ := h.place
  refine ⟨host, port, ha, ?_⟩
  rw [dropEndChar_text ha h.path h.query h.fragment hhost,
    ← read_pathOf h.isWeb hhost hport hne hsegments, ← String.ofList_append]
  simp

end OperationGate.Url
