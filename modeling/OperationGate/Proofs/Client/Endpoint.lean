import OperationGate.Client.Basic
import OperationGate.Document.Token
import OperationGate.Proofs.Url.Origin

/-!
# Endpoints of a client

The endpoint of an operation is the origin of the client with the route, the kind and the name for
its path: `endpoint_eq`. So the request of a call goes to that path, with the parameters of the call
for its query (`request_url`).
-/

namespace OperationGate

open Text Url

/-- A name as documents have it: a letter or an underscore, and letters, digits and underscores
after it. -/
def IsName (name : String) : Prop :=
  ∃ c cs, name.toList = c :: cs ∧ Token.isNameStart c ∧ ∀ d ∈ cs, Token.isNameRest d

instance (name : String) : Decidable (IsName name) :=
  decidable_of_iff
    ((name.toList.head?.any Token.isNameStart && name.toList.tail.all Token.isNameRest) =
      true) <| by
    unfold IsName
    cases name.toList <;> simp

/-- A route of plain segments; slashes may stand at its end. -/
def IsRoute (route : String) : Prop :=
  ∃ segments n, (∀ s ∈ segments, IsSegment s) ∧
    route = String.ofList (pathOf segments ++ List.replicate n '/')

lemma isUnreserved_of_isNameRest {c : Char} (h : Token.isNameRest c) :
    isUnreserved c ∧ c ≠ '.' := by
  simp only [Token.isNameRest, Bool.or_eq_true, decide_eq_true_eq] at h
  rcases h with h | rfl
  · refine ⟨by simp [isUnreserved, h], ?_⟩
    rintro rfl
    revert h
    decide
  · decide

/-- Every character of a name is one that continues names. -/
lemma IsName.isNameRest {name : String} (h : IsName name) :
    ∀ d ∈ name.toList, Token.isNameRest d := by
  obtain ⟨c, cs, hname, hc, hcs⟩ := h
  intro d hd
  rw [hname] at hd
  rcases List.mem_cons.1 hd with rfl | hd
  · simp only [Token.isNameStart, Bool.or_eq_true, decide_eq_true_eq] at hc
    rcases hc with hc | rfl
    · simp [Token.isNameRest, Char.isAlphanum, hc]
    · decide
  · exact hcs d hd

/-- A name is a plain segment. -/
lemma IsName.isSegment {name : String} (h : IsName name) : IsSegment name.toList := by
  have hrest := h.isNameRest
  obtain ⟨c, cs, hname, -, -⟩ := h
  have hdot : ∀ d ∈ name.toList, d ≠ '.' := fun d hd => (isUnreserved_of_isNameRest (hrest d hd)).2
  exact {
    ne_nil := by simp [hname]
    ne_dot := fun he => hdot '.' (by simp [he]) rfl
    ne_dots := fun he => hdot '.' (by simp [he]) rfl
    unreserved := fun d hd => (isUnreserved_of_isNameRest (hrest d hd)).1 }

lemma isSegment_word (kind : OperationKind) : IsSegment kind.word.toList := by
  cases kind <;> exact ⟨by decide, by decide, by decide, List.all_eq_true.1 (by decide)⟩

lemma getLast?_pathOf {segments : List (List Char)} (h : ∀ s ∈ segments, IsSegment s) :
    (pathOf segments).getLast? ≠ some '/' := by
  induction segments with
  | nil => simp [pathOf]
  | cons s rest ih =>
    have hs := h s List.mem_cons_self
    have hrest := ih fun t ht => h t (List.mem_cons_of_mem _ ht)
    rw [pathOf_cons, List.getLast?_append]
    intro he
    cases hr : (pathOf rest).getLast? with
    | some c =>
      rw [hr] at he hrest
      exact hrest (by simpa using he)
    | none =>
      rw [hr, Option.none_or, List.getLast?_cons_of_ne_nil hs.ne_nil] at he
      exact absurd (hs.unreserved '/' (List.mem_of_getLast? he)) (by decide)

/-- A route without the slashes at its end is the path through its segments. -/
lemma IsRoute.exists_segments {route : String} (h : IsRoute route) :
    ∃ segments, (∀ s ∈ segments, IsSegment s) ∧
      dropEndChar '/' route = String.ofList (pathOf segments) := by
  obtain ⟨segments, n, hsegments, rfl⟩ := h
  exact ⟨segments, hsegments, dropEndChar_append (getLast?_pathOf hsegments) n⟩

/-- The path of an endpoint goes through the segments of the route, the kind and the name. -/
lemma endpointPath_eq {route : String} {segments : List (List Char)}
    (h : dropEndChar '/' route = String.ofList (pathOf segments)) (kind : OperationKind)
    (name : String) :
    endpointPath route kind name =
    String.ofList (pathOf (segments ++ [kind.word.toList, name.toList])) := by
  rw [endpointPath, h, ← String.toList_inj]
  simp [pathOf]

namespace ClientConfig

/-- The endpoint of an operation is below the origin of the client. -/
theorem endpoint_eq {config : ClientConfig} {u : Url} (hbase : config.base = some u)
    (horigin : u.IsOrigin) (hroute : IsRoute config.route) {name : String} (hname : IsName name)
    (kind : OperationKind) :
    ∃ host port, u.authority = some ⟨"", "", host, port⟩ ∧
      config.endpoint kind name = (Host.ofWeb host.text.toList).map fun h =>
        ⟨u.scheme, some ⟨"", "", h, port⟩, endpointPath config.route kind name, none, none⟩ := by
  obtain ⟨segments, hsegments, hdrop⟩ := hroute.exists_segments
  have hall : ∀ s ∈ segments ++ [kind.word.toList, name.toList], IsSegment s := by
    intro s hs
    simp only [List.mem_append, List.mem_cons, List.not_mem_nil, or_false] at hs
    rcases hs with hs | rfl | rfl
    · exact hsegments s hs
    · exact isSegment_word kind
    · exact hname.isSegment
  obtain ⟨host, port, ha, hread⟩ := read_below horigin (by simp) hall
  refine ⟨host, port, ha, ?_⟩
  rw [endpoint, baseText, hbase, endpointPath_eq hdrop]
  exact hread

end ClientConfig

end OperationGate
