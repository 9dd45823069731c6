import Mathlib
import OperationGate.Proofs.Client.Key
import OperationGate.Proofs.Client.Run

/-!
# Caching that is not noticed

The key of a query is made of its name and its variables, and not of the headers, parameters and
context that are sent with it. Where queries of one name and with the same variables make the same
request, a client that keeps answers gives the same results as one that does not:
`Client.exists_uncached_of_new`. Where they do not, it can give the answer to another request
(`Client.exists_shared_answer`).
-/

namespace OperationGate

/-- The same settings with nothing cached. -/
def ClientConfig.uncached (config : ClientConfig) : ClientConfig :=
  { config with cache := { config.cache with client := false, server := false } }

/-- Tells that two requests are the same but for how long to wait for an answer. -/
structure OutgoingRequest.Agrees (r r' : OutgoingRequest) : Prop where
  method : r.method = r'.method
  url : r.url = r'.url
  headers : r.headers = r'.headers
  body : r.body = r'.body

namespace Client

/-- Tells that a transport gives requests that agree the same answer. -/
def Transport.IsFixed (transport : Transport) : Prop :=
  ∀ r r', OutgoingRequest.Agrees r r' → transport r = transport r'

/-- The calls that steps make. -/
def tasks (steps : List Step) : List Task :=
  steps.filterMap (·.task?)

/-- Tells that queries that may be cached make requests that agree if they have one name and the
same variables. -/
def SameRequests (config : ClientConfig) (ts : List Task) : Prop :=
  ∀ t ∈ ts, ∀ t' ∈ ts, t.call.isCacheable config → t'.call.isCacheable config →
    t.call.name = t'.call.name →
    t.call.variableValues.canonical.compact = t'.call.variableValues.canonical.compact →
      ∀ r r', t.call.request config = .ok r → t'.call.request config = .ok r' →
        (sentRequest config r).Agrees (sentRequest config r')

variable {config : ClientConfig} {transport : Transport} {c u : Client} {ts : List Task}

lemma key?_uncached (call : Call) : call.key? config.uncached = none := by
  have hdisabled : ∀ context, config.uncached.cache.enabledFor context = false := fun context => by
    cases context <;> rfl
  rw [Call.key?, Call.isCacheable, hdisabled]
  simp

lemma isCacheable_of_key?_eq_some {call : Call} {key : String} (h : call.key? config = some key) :
    call.isCacheable config := by
  rw [Call.key?] at h
  split at h
  next hcacheable => exact hcacheable
  next => cases h

/-- Calls with one key are queries with one name and the same variables. -/
lemma eq_of_key?_eq {call call' : Call} {key : String} (h : call.key? config = some key)
    (h' : call'.key? config = some key) :
    call.kind = call'.kind ∧ call.name = call'.name ∧
      call.variableValues.canonical.compact = call'.variableValues.canonical.compact := by
  obtain ⟨-, -, -, hkey⟩ := Call.key?_eq_some_iff.1 h
  obtain ⟨-, -, -, hkey'⟩ := Call.key?_eq_some_iff.1 h'
  exact cacheKey_eq_iff.1 (hkey.symm.trans hkey')

/-- A body came back for the request of a call. -/
def CameFor (config : ClientConfig) (transport : Transport) (t : Task) (body : Json) : Prop :=
  ∃ request a, t.call.request config = .ok request ∧
    transport (sentRequest config request) = .ok a ∧ a.isSuccess ∧ Json.read? a.body = some body

/-- A client that keeps answers goes with one that does not: what it keeps came back for calls with
the same keys. -/
structure Follows (config : ClientConfig) (transport : Transport) (ts : List Task) (c u : Client) :
    Prop where
  config_eq : c.config = config
  uncached_eq : u.config = config.uncached
  came : ∀ e ∈ c.cache.entries, ∃ t ∈ ts, t.call.key? config = some e.1 ∧
    CameFor config transport t e.2

/-- What a client does that keeps no answer. -/
lemma start_uncached_of_request (hu : u.config = config.uncached) {call : Call}
    (hkind : call.kind ≠ .subscription) {request : OutgoingRequest}
    (hrequest : call.request config = .ok request) :
    u.start call = .pending ⟨none, sentRequest config request⟩ := by
  refine start_eq_pending_iff.2 ⟨hkind, ?_, request, ?_, ?_⟩
  · rw [hu, key?_uncached]
    rfl
  · rw [hu]
    exact hrequest
  · rw [hu, key?_uncached]
    rfl

lemma start_uncached_of_failed (hc : c.config = config) (hu : u.config = config.uncached)
    {call : Call} {e : Failure} (h : c.start call = .failed e) : u.start call = .failed e := by
  refine start_eq_failed_iff.2 ?_
  rcases start_eq_failed_iff.1 h with hkind | ⟨hkind, -, fault, hfault, he⟩
  · exact .inl hkind
  · refine .inr ⟨hkind, ?_, fault, ?_, he⟩
    · rw [hu, key?_uncached]
      rfl
    · rw [hu]
      exact hc ▸ hfault

/-- A call with no key leaves the client as it was. -/
lemma finish_none {R : Type} (decode : Json → Option R) (answer : Except Failure RawAnswer) :
    u.finish decode none answer = ((decoded decode answer).map (·.2), u) := by
  cases hdecoded : decoded decode answer with
  | error e => rw [finish_eq_of_error hdecoded]; rfl
  | ok v => rw [finish_eq_of_ok hdecoded]; rfl

/-- A call of a client that keeps no answer gives what is decoded of the answer to its request. -/
lemma request_uncached (hu : u.config = config.uncached) {R : Type} (decode : Json → Option R)
    {call : Call} (hkind : call.kind ≠ .subscription) {request : OutgoingRequest}
    (hrequest : call.request config = .ok request) :
    Id.run (u.request transport decode call) =
      ((decoded decode (transport (sentRequest config request))).map (·.2), u) := by
  rw [request_eq_of_pending (start_uncached_of_request hu hkind hrequest), finish_none]

lemma decoded_of_read? {R : Type} (decode : Json → Option R) {a : RawAnswer} {body : Json}
    (hsuccess : a.isSuccess) (hbody : Json.read? a.body = some body) :
    (decoded decode (.ok a)).map (·.2) = decodeBody decode body := by
  have hreceived : received (.ok a) = .ok a := if_pos hsuccess
  simp only [decoded, hreceived, bind, Except.bind, hbody]
  cases decodeBody decode body <;> rfl

/-- What is kept under the key of a call is what comes back for its own request. -/
lemma Follows.cameFor (h : Follows config transport ts c u) (htransport : transport.IsFixed)
    (hsame : SameRequests config ts) {t : Task} (ht : t ∈ ts) {key : String}
    (hkey : t.call.key? config = some key) {body : Json} (hget : c.cache.get? key = some body) :
    CameFor config transport t body := by
  obtain ⟨t', ht', hkey', request', a, hrequest', ha, hsuccess, hbody⟩ :=
    h.came _ (ResponseCache.mem_of_get?_eq_some hget)
  obtain ⟨hkinds, hname, htext⟩ := eq_of_key?_eq hkey hkey'
  -- The endpoint is that of the call which the answer came for, so there is a request to compare.
  obtain ⟨request, hrequest⟩ : ∃ request, t.call.request config = .ok request := by
    rw [Call.exists_request_iff, hkinds, hname]
    exact Call.exists_request_iff.1 ⟨request', hrequest'⟩
  have hagrees := hsame t ht t' ht' (isCacheable_of_key?_eq_some hkey)
    (isCacheable_of_key?_eq_some hkey') hname htext request request' hrequest hrequest'
  exact ⟨request, a, hrequest, (htransport _ _ hagrees).trans ha, hsuccess, hbody⟩

/-- Side by side, a client that keeps answers and one that does not give a call the same result. -/
lemma Follows.request (h : Follows config transport ts c u) (htransport : transport.IsFixed)
    (hsame : SameRequests config ts) {t : Task} (ht : t ∈ ts) :
    (Id.run (c.request transport t.decode t.call)).1 =
      (Id.run (u.request transport t.decode t.call)).1 ∧
      Follows config transport ts (Id.run (c.request transport t.decode t.call)).2
        (Id.run (u.request transport t.decode t.call)).2 := by
  cases hstart : c.start t.call with
  | failed e =>
    rw [request_eq_of_failed hstart,
      request_eq_of_failed (start_uncached_of_failed h.config_eq h.uncached_eq hstart)]
    exact ⟨rfl, h⟩
  | pending p =>
    obtain ⟨hkind, hkept, request, hrequest, rfl⟩ := start_eq_pending_iff.1 hstart
    rw [h.config_eq] at hrequest
    rw [request_eq_of_pending hstart, request_uncached h.uncached_eq t.decode hkind hrequest,
      h.config_eq]
    cases hdecoded : decoded t.decode (transport (sentRequest config request)) with
    | error e => rw [finish_eq_of_error hdecoded]; exact ⟨rfl, h⟩
    | ok v =>
      obtain ⟨body, r⟩ := v
      rw [finish_eq_of_ok hdecoded]
      refine ⟨rfl, h.config_eq, h.uncached_eq, fun e he => ?_⟩
      cases hkey : t.call.key? config with
      | none =>
        rw [hkey] at he
        exact h.came e he
      | some key =>
        rw [hkey] at he
        rcases ResponseCache.mem_insert he with rfl | he
        · obtain ⟨a, ha, hsuccess, hbody, -⟩ := decoded_eq_ok_iff.1 hdecoded
          exact ⟨t, ht, hkey, request, a, hrequest, ha, hsuccess, hbody⟩
        · exact h.came e he
  | known body =>
    obtain ⟨hkind, hkept⟩ := start_eq_known_iff.1 hstart
    obtain ⟨key, hkey, hget⟩ := Option.bind_eq_some_iff.1 hkept
    rw [h.config_eq] at hkey
    obtain ⟨request, a, hrequest, ha, hsuccess, hbody⟩ := h.cameFor htransport hsame ht hkey hget
    rw [request_eq_of_known hstart, request_uncached h.uncached_eq t.decode hkind hrequest, ha,
      decoded_of_read? t.decode hsuccess hbody]
    exact ⟨rfl, h⟩

lemma Follows.run (htransport : transport.IsFixed) (hsame : SameRequests config ts)
    {steps : List Step} (h : Follows config transport ts c u) (hsteps : ∀ t ∈ tasks steps, t ∈ ts) :
    (c.run (steps.map fun step => (transport, step))).1 =
    (u.run (steps.map fun step => (transport, step))).1 := by
  induction steps generalizing c u with
  | nil => rfl
  | cons step rest ih =>
    have hrest : ∀ t ∈ tasks rest, t ∈ ts := by
      intro t ht
      refine hsteps t ?_
      obtain ⟨step', hstep', htask⟩ := List.mem_filterMap.1 ht
      exact List.mem_filterMap.2 ⟨step', List.mem_cons_of_mem _ hstep', htask⟩
    rw [List.map_cons, Client.run, Client.run]
    cases htask : step.task? with
    | none =>
      by_cases hclear : step = .clear
      · subst hclear
        have hcleared : Follows config transport ts c.clearCache u.clearCache :=
          ⟨h.config_eq, h.uncached_eq, by simp [clearCache]⟩
        simp only [Step.run_clear, ih hcleared hrest]
      · obtain ⟨R, hrun⟩ := Step.exists_run_of_task?_eq_none htask hclear
        simp only [hrun, ih h hrest]
    | some t =>
      obtain ⟨hresult, hnext⟩ := h.request htransport hsame
        (hsteps t (List.mem_filterMap.2 ⟨step, List.mem_cons_self, htask⟩))
      rw [Step.run_of_task?_eq_some htask, Step.run_of_task?_eq_some htask]
      simp only [hresult, ih hnext hrest]

/-- Where queries of one name and with the same variables make requests that agree, a new client
gives the same results as one with the same settings that keeps no answers, and only calls with one
name and the same variables share an answer. -/
theorem exists_uncached_of_new (hnew : Client.new config = .ok c) (htransport : transport.IsFixed)
    (steps : List Step) (hsame : SameRequests config (tasks steps)) :
    (∃ u, Client.new config.uncached = .ok u ∧
      (c.run (steps.map fun step => (transport, step))).1 =
      (u.run (steps.map fun step => (transport, step))).1) ∧
    ∀ (call call' : Call) (key : String), call.key? config = some key →
      call'.key? config = some key → call.name = call'.name ∧
        call.variableValues.canonical.compact = call'.variableValues.canonical.compact := by
  refine ⟨?_, fun call call' key h h' => (eq_of_key?_eq h h').2⟩
  have hfault : config.uncached.fault? = config.fault? := rfl
  rw [new] at hnew ⊢
  rw [hfault]
  cases hnone : config.fault? with
  | some issue => simp [hnone] at hnew
  | none =>
    rw [hnone] at hnew
    cases hnew
    exact ⟨_, rfl, Follows.run htransport hsame
      ⟨rfl, rfl, by simp [ResponseCache.new]⟩ fun t ht => ht⟩

/-- The step that makes a plain query. -/
def plainStep (headers : Headers) : Step :=
  .request (plainQuery headers).decode (plainQuery headers).call

/-- A query that is made twice gets its answer twice, kept or not. -/
theorem exists_uncached_of_new_sample : ∃ c u, Client.new keepingConfig = .ok c ∧
    Client.new keepingConfig.uncached = .ok u ∧ Transport.IsFixed emptyAnswer ∧
    SameRequests keepingConfig (tasks [plainStep .empty, plainStep .empty]) ∧
    (c.run ([plainStep .empty, plainStep .empty].map fun step => (emptyAnswer, step))).1 =
      (u.run ([plainStep .empty, plainStep .empty].map fun step => (emptyAnswer, step))).1 := by
  have hsame : SameRequests keepingConfig (tasks [plainStep .empty, plainStep .empty]) := by
    have htasks : ∀ t ∈ tasks [plainStep .empty, plainStep .empty], t = plainQuery .empty := by
      simp [tasks, plainStep, Step.task?]
    intro t ht t' ht' _ _ _ _ r r' hr hr'
    obtain rfl := htasks t ht
    obtain rfl := htasks t' ht'
    obtain rfl : r = r' := Except.ok.inj (hr.symm.trans hr')
    exact ⟨rfl, rfl, rfl, rfl⟩
  have hfixed : Transport.IsFixed emptyAnswer := fun _ _ _ => rfl
  obtain ⟨⟨u, hu, hrun⟩, -⟩ := exists_uncached_of_new new_keepingConfig hfixed
    [plainStep .empty, plainStep .empty] hsame
  exact ⟨_, u, new_keepingConfig, hu, hfixed, hsame, hrun⟩

/-- A transport whose answer depends on a header. -/
def headerAnswer : Transport := fun r =>
  .ok ⟨200, .empty, if (r.headers.get? "x").isSome then "\x7b\"data\":1\x7d" else "\x7b\x7d"⟩

/-- The headers that `headerAnswer` depends on. -/
def markedHeaders : Headers :=
  Headers.empty.set "x" "1"

/-- Tells that a step gave a response with data. -/
def hasData : Outcome → Bool
  | some ⟨_, .ok r⟩ => r.data.isSome
  | _ => false

lemma headers_of_plainQuery {headers : Headers} {request : OutgoingRequest}
    (h : (plainQuery headers).call.request keepingConfig = .ok request) :
    (sentRequest keepingConfig request).headers = Headers.empty.setEach headers.pairs := by
  obtain ⟨url, -, h⟩ := bind_eq_ok.1 h
  cases h
  rfl

lemma read?_headerAnswer :
    Json.read? "\x7b\"data\":1\x7d" = some (.record [("data", .number (.integer 1))]) := by
  cbv

/-- What two plain queries give, one after the other. -/
lemma run_plainSteps (transport : Transport) (c : Client) (headers headers' : Headers) :
    (c.run ([plainStep headers, plainStep headers'].map fun step => (transport, step))).1 =
      [some ⟨Json, (Id.run (c.request transport some (plainQuery headers).call)).1⟩,
        some ⟨Json, (Id.run ((Id.run (c.request transport some (plainQuery headers).call)).2.request
          transport some (plainQuery headers').call)).1⟩] := rfl

/-- A call whose key has just been given a body gets the body. -/
lemma request_of_finished {R R' : Type} {decode : Json → Option R} (decode' : Json → Option R')
    {call : Call} {key : String} {answer : Except Failure RawAnswer} {body : Json} {r : Response R}
    (hdecoded : decoded decode answer = .ok (body, r)) (hkey : call.key? c.config = some key) :
    (Id.run ((c.finish decode (some key) answer).2.request transport decode' call)).1 =
    decodeBody decode' body := by
  rw [finish_eq_of_ok hdecoded, Option.elim_some]
  have hkind : call.kind ≠ .subscription := by
    rw [(Call.key?_eq_some_iff.1 hkey).1]
    exact fun h => nomatch h
  refine congrArg Prod.fst (request_eq_of_known (start_eq_known_iff.2 ⟨hkind, ?_⟩))
  rw [hkey, Option.bind_some]
  exact ResponseCache.get?_insert_self

/-- Two queries of one name and with the same variables, but with other headers: the second gets the
answer to the first. -/
theorem exists_shared_answer :
    ∃ c u, Client.new keepingConfig = .ok c ∧ Client.new keepingConfig.uncached = .ok u ∧
    Transport.IsFixed headerAnswer ∧
    (c.run ([plainStep .empty, plainStep markedHeaders].map fun step => (headerAnswer, step))).1 ≠
      (u.run ([plainStep .empty, plainStep markedHeaders].map fun step =>
        (headerAnswer, step))).1 := by
  have hfixed : Transport.IsFixed headerAnswer :=
    fun r r' h => by rw [headerAnswer, h.headers, headerAnswer]
  refine ⟨⟨keepingConfig, .new 1⟩, ⟨keepingConfig.uncached, .new 1⟩, rfl, rfl, hfixed, fun h => ?_⟩
  obtain ⟨request, hrequest⟩ := exists_request_plainQuery .empty
  obtain ⟨marked, hmarked⟩ := exists_request_plainQuery markedHeaders
  have hanswer : headerAnswer (sentRequest keepingConfig request) =
      .ok ⟨200, .empty, "\x7b\x7d"⟩ := by
    rw [headerAnswer, headers_of_plainQuery hrequest]
    rfl
  have hmarkedAnswer : headerAnswer (sentRequest keepingConfig marked) =
      .ok ⟨200, .empty, "\x7b\"data\":1\x7d"⟩ := by
    rw [headerAnswer, headers_of_plainQuery hmarked]
    rfl
  have hcached : (Id.run ((Id.run ((Client.mk keepingConfig (.new 1)).request headerAnswer some
      (plainQuery .empty).call)).2.request headerAnswer some (plainQuery markedHeaders).call)).1 =
        decodeBody some (.record []) := by
    obtain ⟨key, hkey⟩ := exists_key_plainQuery
    have hdecoded : decoded some (headerAnswer (sentRequest keepingConfig request)) =
        .ok (.record [], (⟨none, [], .empty⟩ : Response Json)) :=
        hanswer ▸ decoded_emptyAnswer request
    rw [request_eq_of_pending (start_plainQuery (hkey .empty) hrequest)]
    exact request_of_finished some hdecoded (hkey markedHeaders)
  have huncached :
      (Id.run ((Id.run ((Client.mk keepingConfig.uncached (.new 1)).request headerAnswer some
      (plainQuery .empty).call)).2.request headerAnswer some (plainQuery markedHeaders).call)).1 =
        decodeBody some (.record [("data", .number (.integer 1))]) := by
    rw [request_uncached rfl some (kind_plainQuery .empty) hrequest,
      request_uncached rfl some (kind_plainQuery markedHeaders) hmarked]
    show (decoded some (headerAnswer (sentRequest keepingConfig marked))).map (·.2) = _
    rw [hmarkedAnswer]
    exact decoded_of_read? some rfl read?_headerAnswer
  rw [run_plainSteps, run_plainSteps, hcached, huncached] at h
  have hdata := congrArg (fun os => os.getLast?.map hasData) h
  have hnone : hasData (some ⟨Json, decodeBody some (.record [])⟩) = false := rfl
  have hsome : hasData (some ⟨Json, decodeBody some (.record [("data", .number (.integer 1))])⟩) =
      true := rfl
  simp only [List.getLast?_cons_cons, List.getLast?_singleton, Option.map_some, hnone, hsome,
    Option.some.injEq, Bool.false_eq_true] at hdata

end Client

end OperationGate
