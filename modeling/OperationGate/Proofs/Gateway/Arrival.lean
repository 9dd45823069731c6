import OperationGate.Gateway.Request
import OperationGate.Proofs.Client.Endpoint

/-!
# Requests of clients as they come in

The request of a call comes in with the path of the operation's endpoint and the parameters of the
call (`Call.path_query_incoming`), and the text of its path and query is read as just those
(`Call.read_request`).
-/

namespace OperationGate

open Text Url

/-- A request as it comes in at the other end, with the headers that come with it: the body is its
text. -/
def OutgoingRequest.incoming (r : OutgoingRequest) (headers : Headers) : IncomingRequest :=
  ⟨r.method, r.url.path, r.url.queryPairs, headers, r.body.map Json.compact⟩

/-- The path and the query of an address, as a request line has them. -/
def Url.pathAndQuery (u : Url) : String :=
  u.path ++ u.query.elim "" ("?" ++ ·)

namespace Url

/-- The question mark and the query behind a path, if there is a query. -/
def queryTail (query : Option String) : List Char :=
  query.elim [] ('?' :: ·.toList)

/-- A character that stands for itself in a query is no blank, and does not end the query. -/
lemma inWebQuery_spec {c : Char} (h : Percent.inWebQuery c) : ' ' < c ∧ c ≠ '#' := by
  have hc : c.toNat < 128 := by
    simp only [Percent.inWebQuery, Percent.inQuery, Percent.isPrintable, Bool.and_eq_true,
      decide_eq_true_eq] at h
    omega
  revert h
  exact forall_ascii (p := fun c => Percent.inWebQuery c → ' ' < c ∧ c ≠ '#') (by decide) hc

section QueryTail

variable {query : Option String} (hquery : ∀ q ∈ query, ∀ c ∈ q.toList, Percent.inWebQuery c)

include hquery

/-- A query of characters that stand for themselves is read as it is. -/
lemma tailOf_queryTail : tailOf .web (queryTail query) = (query, none) := by
  cases query with
  | none => rfl
  | some q =>
    have hkept := hquery q rfl
    have hhash : ∀ c ∈ q.toList, decide (c ≠ '#') = true :=
      fun c hc => decide_eq_true (inWebQuery_spec (hkept c hc)).2
    have hencode : Percent.encode Percent.inWebQuery q.toList = q.toList :=
      Percent.encode_eq_self hkept
    rw [queryTail, Option.elim_some, tailOf]
    simp only [List.takeWhile_eq_self_iff.2 hhash, List.dropWhile_eq_nil_iff.2 hhash]
    rw [if_neg (by decide), hencode, String.ofList_toList]

lemma not_blank_of_mem_queryTail {c : Char} (hc : c ∈ queryTail query) : ' ' < c := by
  cases query with
  | none => cases hc
  | some q =>
    rcases List.mem_cons.1 hc with rfl | hc
    · decide
    · exact (inWebQuery_spec (hquery q rfl c hc)).1

end QueryTail

lemma endsPath_head_queryTail (query : Option String) :
    ∀ c ∈ (queryTail query).head?, endsPath c := by
  cases query with
  | none => exact nofun
  | some q =>
    intro c hc
    cases hc
    rfl

/-- A path with one slash at its front takes the place of the path of the base. -/
lemma relative_home {c : Char} (hc : SchemeSort.web.isSlash c = false) (cs : List Char) :
    relative IncomingRequest.home ('/' :: c :: cs) =
    .ok (relative.finish .web IncomingRequest.home [] (c :: cs)) := by
  have hhome : SchemeSort.ofScheme IncomingRequest.home.scheme = .web := by decide
  have hslash : SchemeSort.web.isSlash '/' := rfl
  unfold relative
  simp only [hhome]
  show (if SchemeSort.isSlash .web '/' then (if SchemeSort.isSlash .web c then _ else _) else _) = _
  rw [if_pos hslash, if_neg (by simp [hc])]

/-- A path of segments starts with one slash, and what follows it is no slash. -/
lemma exists_pathOf_eq {segments : List (List Char)} (hne : segments ≠ [])
    (hsegments : ∀ s ∈ segments, IsSegment s) :
    ∃ c cs, pathOf segments = '/' :: c :: cs ∧ List.intercalate ['/'] segments = c :: cs ∧
      SchemeSort.web.isSlash c = false := by
  obtain ⟨s, rest, rfl⟩ := List.exists_cons_of_ne_nil hne
  obtain ⟨c, cs, rfl⟩ := List.exists_cons_of_ne_nil (hsegments s List.mem_cons_self).ne_nil
  have hc := isUnreserved_spec ((hsegments _ List.mem_cons_self).unreserved c List.mem_cons_self)
  have hpath : pathOf ((c :: cs) :: rest) = '/' :: c :: (cs ++ pathOf rest) := by
    rw [pathOf_cons, List.cons_append, List.cons_append]
  rw [pathOf_eq_intercalate hne] at hpath
  refine ⟨c, cs ++ pathOf rest, by rw [pathOf_eq_intercalate hne, hpath],
    (List.cons.inj hpath).2, ?_⟩
  simp [SchemeSort.isSlash, hc.2.2.1, hc.2.2.2.1]

end Url

section PathAndQuery

variable {u : Url} {segments : List (List Char)} (hne : segments ≠ [])
  (hsegments : ∀ s ∈ segments, IsSegment s)
  (hpath : u.path = String.ofList (pathOf segments))
    (hquery : ∀ q ∈ u.query, ∀ c ∈ q.toList, Percent.inWebQuery c)

include hsegments hpath hquery

/-- There is nothing to be cleaned off a path of plain segments and a query. -/
lemma Url.cleaned_pathAndQuery : cleaned u.pathAndQuery = pathOf segments ++ queryTail u.query := by
  have htext : u.pathAndQuery = String.ofList (pathOf segments ++ queryTail u.query) := by
    rw [pathAndQuery, hpath, String.ofList_append]
    cases u.query with
    | none => rfl
    | some q => simp [queryTail, String.ofList_cons]
  rw [htext]
  refine cleaned_ofList fun c hc => ?_
  rcases List.mem_append.1 hc with hc | hc
  · rcases isUnreserved_or_of_mem_pathOf hsegments hc with rfl | hc
    · decide
    · exact (isUnreserved_spec hc).2.1
  · exact not_blank_of_mem_queryTail hquery hc

include hne

/-- A path of plain segments and a query of characters that stand for themselves are read as they
are. -/
lemma IncomingRequest.read_pathAndQuery (method : String) :
    read method u.pathAndQuery = .ok ⟨method, u.path, u.queryPairs, .empty, none⟩ := by
  obtain ⟨c, cs, hstart, hinner, hslash⟩ := exists_pathOf_eq hne hsegments
  have hread := pathFrom_segments hne hsegments (endsPath_head_queryTail u.query)
  rw [hinner, List.cons_append] at hread
  have hscheme : splitScheme? ('/' :: c :: (cs ++ queryTail u.query)) = none := rfl
  have hresolve : resolve (some home) u.pathAndQuery =
      .ok { home with path := u.path, query := u.query, fragment := none } := by
    unfold resolve
    simp only [cleaned_pathAndQuery hsegments hpath hquery, hstart, List.cons_append, hscheme]
    rw [if_pos (by rw [Bool.or_eq_true]; exact .inr rfl), relative_home hslash,
      relative.finish, hread]
    simp only [tailOf_queryTail hquery, hpath]
  rw [read, hresolve]
  rfl

end PathAndQuery

namespace Call

section Request

variable {config : ClientConfig} {u : Url} {call : Call} {request : OutgoingRequest}

/-- The address of a call without parameters of the transport: the endpoint with the parameters of
the call. -/
lemma request_url (hbase : config.base = some u) (horigin : u.IsOrigin)
    (hroute : IsRoute config.route) (hname : IsName call.name) (hquery : call.transport.query = [])
    (h : call.request config = .ok request) :
    ∃ url : Url, url.path = endpointPath config.route call.kind call.name ∧ url.query = none ∧
      request.url = (url.appendPairs call.parameters).dropEmptyQuery := by
  obtain ⟨host, port, ha, hendpoint⟩ := config.endpoint_eq hbase horigin hroute hname call.kind
  obtain ⟨url, hurl, h⟩ := bind_eq_ok.1 h
  rw [hendpoint] at hurl
  have hurl : url.path = endpointPath config.route call.kind call.name ∧ url.query = none := by
    cases hweb : Host.ofWeb host.text.toList with
    | error e =>
      rw [hweb] at hurl
      cases hurl
    | ok h =>
      rw [hweb] at hurl
      cases hurl
      exact ⟨rfl, rfl⟩
  refine ⟨url, hurl.1, hurl.2, ?_⟩
  cases h
  by_cases hkind : call.kind = .query <;>
    simp [TransportOptions.apply, hquery, hkind, OutgoingRequest.new]

/-- An origin whose host is read from its own text has endpoints, so that calls make requests. -/
lemma exists_request (hbase : config.base = some u) (horigin : u.IsOrigin)
    (hroute : IsRoute config.route) (hhost : ∀ a ∈ u.authority, a.host.IsStable)
    (hname : IsName call.name) : ∃ request, call.request config = .ok request := by
  obtain ⟨host, port, ha, hendpoint⟩ := config.endpoint_eq hbase horigin hroute hname call.kind
  have hstable : Host.ofWeb host.text.toList = .ok host :=
    hhost ⟨"", "", host, port⟩ (by rw [ha]; rfl)
  rw [hstable] at hendpoint
  exact ⟨_, bind_eq_ok.2 ⟨_, hendpoint, rfl⟩⟩

/-- The method and the body of a call follow its kind. -/
lemma request_method_body (h : call.request config = .ok request) :
    request.method = (if call.kind = .query then "GET" else "POST") ∧
      request.body = if call.kind = .query then none else some call.variableValues := by
  obtain ⟨url, -, h⟩ := bind_eq_ok.1 h
  cases h
  by_cases hkind : call.kind = .query <;>
    simp [TransportOptions.apply, hkind, OutgoingRequest.new]

@[simp]
lemma path_dropEmptyQuery (u : Url) : u.dropEmptyQuery.path = u.path := by
  unfold dropEmptyQuery
  split <;> rfl

lemma mem_query_dropEmptyQuery {u : Url} {q : String} (h : q ∈ u.dropEmptyQuery.query) :
    q ∈ u.query := by
  unfold dropEmptyQuery at h
  split at h
  · cases h
  · exact h

/-- What a call sends comes in with the path of the endpoint and the parameters of the call. -/
theorem path_query_incoming (hbase : config.base = some u) (horigin : u.IsOrigin)
    (hroute : IsRoute config.route) (hname : IsName call.name) (hquery : call.transport.query = [])
    (h : call.request config = .ok request) (headers : Headers) :
    (request.incoming headers).path = endpointPath config.route call.kind call.name ∧
      (request.incoming headers).query = call.parameters := by
  obtain ⟨url, hpath, hnone, hurl⟩ := request_url hbase horigin hroute hname hquery h
  have hpairs : url.queryPairs = [] := by
    rw [queryPairs, hnone]
    rfl
  refine ⟨?_, ?_⟩
  · rw [OutgoingRequest.incoming, hurl, path_dropEmptyQuery]
    exact hpath
  · rw [OutgoingRequest.incoming, hurl, queryPairs_dropEmptyQuery, queryPairs_appendPairs, hpairs,
      List.nil_append]

/-- The path and the query of what a call sends are read as they come in. -/
theorem read_request (hbase : config.base = some u) (horigin : u.IsOrigin)
    (hroute : IsRoute config.route) (hname : IsName call.name) (hquery : call.transport.query = [])
    (h : call.request config = .ok request) :
    IncomingRequest.read request.method request.url.pathAndQuery =
      .ok { request.incoming .empty with body := none } := by
  obtain ⟨segments, hsegments, hdrop⟩ := hroute.exists_segments
  obtain ⟨url, hpath, hnone, hurl⟩ := request_url hbase horigin hroute hname hquery h
  refine @IncomingRequest.read_pathAndQuery _ (segments ++
    [call.kind.word.toList, call.name.toList]) (by simp) ?_ ?_ ?_ _
  · intro s hs
    simp only [List.mem_append, List.mem_cons, List.not_mem_nil, or_false] at hs
    rcases hs with hs | rfl | rfl
    · exact hsegments s hs
    · exact isSegment_word call.kind
    · exact hname.isSegment
  · rw [hurl, path_dropEmptyQuery, ← endpointPath_eq hdrop]
    exact hpath
  · intro q hq c hc
    rw [hurl] at hq
    obtain rfl := Option.some.inj (mem_query_dropEmptyQuery hq)
    rw [String.toList_ofList] at hc
    exact Form.inWebQuery_of_mem_foldl (by simp [hnone]) hc

end Request

end Call

end OperationGate
