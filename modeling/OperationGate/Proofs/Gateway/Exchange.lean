import OperationGate.Proofs.Gateway.Arrival
import OperationGate.Proofs.Gateway.Routing
import OperationGate.Proofs.Json.Reading

/-!
# Clients and gateways

A client and a gateway in front of a service are put together: the requests of the client come in at
the gateway, and its answers go back as texts. Both sides agree, although one builds addresses and
the other takes them apart. `Client.request_over_gateway` says what a call comes to: the one request
that is sent to the service, what hooks are told, and what the client makes of the service's answer.

A call that is not a subscription is on its way unless its answer is kept, if the host of the client
is read from its own text. Hosts of plain texts are (`Client.exists_start_of_isPlain`).

Variables travel as a text. They arrive as they were sent if they are read from their own text,
which holds for whole numbers, but not for every other number
(`Client.request_over_gateway_changes_number`).
-/

namespace OperationGate

open Text Url

/-! ## What a gateway reads from the request of a call -/

namespace Call

lemma afterFront?_variables : afterFront? contextMark "variables" = none := by
  decide

/-- A parameter with the mark is not the one for variables. -/
lemma contextMark_append_ne (key : String) : contextMark ++ key ≠ "variables" := by
  intro he
  have hmark := afterFront?_append contextMark key
  rw [he, afterFront?_variables] at hmark
  cases hmark

/-- A gateway reads the context of the client back. -/
lemma clientContext_parameters {r : IncomingRequest} {call : Call} (h : r.query = call.parameters) :
    r.clientContext = call.context := by
  have hcontext : ((call.context.entries.map fun e => (contextMark ++ e.1, e.2)).filterMap fun p =>
      (afterFront? contextMark p.1).map fun key => (key, p.2)) = call.context.entries := by
    simp [List.filterMap_map, afterFront?_append]
  rw [IncomingRequest.clientContext, h, parameters, List.filterMap_append, hcontext]
  split <;> simp [afterFront?_variables]

/-- The variables of an operation as a gateway sends them: null is no variables. -/
def sentVariables (call : Call) : Json :=
  match call.variableValues with
  | .null => .emptyObject
  | v => v

lemma exists_compact_eq {v : Json} (h : v = .null ∨ ∃ members, v = .record members) :
    ∃ c cs d, v.compact = String.ofList (c :: cs ++ [d]) ∧ isBlank c = false ∧
      isBlank d = false := by
  rcases h with rfl | ⟨members, rfl⟩
  · exact ⟨'n', ['u', 'l'], 'l', rfl, rfl, rfl⟩
  · exact ⟨'\x7b', Json.writeMembers members, '\x7d', rfl, rfl, rfl⟩

/-- The text of variables is read as a value, without anything cut off. -/
lemma readVariables_compact_eq {v : Json} (hobject : v = .null ∨ ∃ members, v = .record members) :
    IncomingRequest.readVariables v.compact =
      match Json.read? v.compact with
      | some (.record members) => .ok (.record members)
      | some .null => .ok .emptyObject
      | some _ => .error "Variables must be a JSON object"
      | none => .error "Invalid variables" := by
  obtain ⟨c, cs, d, htext, hc, hd⟩ := exists_compact_eq hobject
  have htrimmed : trimmed v.compact = v.compact := by
    rw [htext, trimmed, trim, trimStart, dropEndWhile]
    simp [hc, hd]
  have hne : v.compact ≠ "" := by
    simp [htext]
  rw [IncomingRequest.readVariables, htrimmed]
  exact if_neg hne

/-- Restored variables are read from their text, null as none. -/
lemma readVariables_compact {call : Call} (hrestored : call.variableValues.IsRestored Json.maxDepth)
    (hobject : call.variableValues = .null ∨ ∃ members, call.variableValues = .record members) :
    IncomingRequest.readVariables call.variableValues.compact = .ok call.sentVariables := by
  rw [readVariables_compact_eq hobject, Json.read?_compact hrestored]
  rcases hobject with hv | ⟨members, hv⟩ <;> simp [sentVariables, hv]

/-- No variables are read from the text of a call without any. -/
lemma eq_emptyObject_of_not_hasVariables {call : Call} (hhas : ¬hasVariables call.variableValues)
    (hobject : call.variableValues = .null ∨ ∃ members, call.variableValues = .record members)
    {v : Json} (hread : IncomingRequest.readVariables call.variableValues.compact = .ok v) :
    v = .emptyObject := by
  rcases hobject with hv | ⟨members, hv⟩
  · have hnull := @readVariables_compact call (hv ▸ .null _) (.inl hv)
    rw [hread, sentVariables, hv] at hnull
    exact Except.ok.inj hnull
  · rw [hv] at hhas
    obtain rfl : members = [] := by simpa [hasVariables] using hhas
    have hrecord := @readVariables_compact call (hv ▸ .record .nil (by simp)) (.inr ⟨[], hv⟩)
    rw [hread, sentVariables, hv] at hrecord
    exact Except.ok.inj hrecord

/-- The variables are what a gateway reads from their text, wherever it comes. -/
lemma variableValues_incoming {r : IncomingRequest} {call : Call}
    (hkind : call.kind ≠ .subscription) (hquery : r.query = call.parameters)
    (hbody : r.body = if call.kind = .query then none else some call.variableValues.compact)
    (hobject : call.variableValues = .null ∨ ∃ members, call.variableValues = .record members)
    {v : Json} (hread : IncomingRequest.readVariables call.variableValues.compact = .ok v) :
    r.variableValues call.kind = .ok v := by
  cases hk : call.kind with
  | subscription => exact absurd hk hkind
  | mutation =>
    rw [hk, if_neg (by decide)] at hbody
    rw [IncomingRequest.variableValues_of_body (by decide), hbody]
    exact hread
  | query =>
    by_cases hhas : hasVariables call.variableValues
    · have hparameters : r.query = [] ++ ("variables", call.variableValues.compact) ::
          call.context.entries.map fun e => (contextMark ++ e.1, e.2) := by
        rw [hquery, parameters]
        simp [hk, hhas]
      rw [IncomingRequest.variableValues_of_parameter hparameters (by simp)]
      exact hread
    · have hparameters : r.query = call.context.entries.map fun e => (contextMark ++ e.1, e.2) := by
        rw [hquery, parameters]
        simp [hhas]
      have hnone : ∀ p ∈ r.query, p.1 ≠ "variables" := by
        rw [hparameters]
        rintro _ hp
        obtain ⟨e, -, rfl⟩ := List.mem_map.1 hp
        exact contextMark_append_ne e.1
      have hplain : r.plainVariables = .emptyObject := by
        have hfilter : (r.query.filter fun p => (afterFront? contextMark p.1).isNone) = [] := by
          rw [hparameters, List.filter_eq_nil_iff]
          rintro _ hp
          obtain ⟨e, -, rfl⟩ := List.mem_map.1 hp
          simp [afterFront?_append]
        rw [IncomingRequest.plainVariables, hfilter]
        rfl
      rw [IncomingRequest.variableValues_of_plain hnone, hplain,
        eq_emptyObject_of_not_hasVariables hhas hobject hread]

end Call

/-! ## A call over a gateway -/

/-- An answer of a gateway as it comes back. -/
def GatewayAnswer.raw (a : GatewayAnswer) : RawAnswer :=
  ⟨a.status, .empty, a.body.compact⟩

/-- A call as the gateway takes it from its request. -/
def Call.arriving (call : Call) (request : OutgoingRequest) (headers : Headers) : GatewayCall :=
  ⟨call.kind, call.name, call.context, request.incoming headers⟩

namespace Gateway

/-- A gateway before a service as the transport of a client: requests come in with some headers, and
answers go back as texts. -/
def transport (g : Gateway Id) (upstream : OutgoingRequest → Except Failure RawAnswer)
    (headers : Headers) (request : OutgoingRequest) : Traced (Except Failure RawAnswer) := do
  return .ok (← g.traced.handle (service upstream) (request.incoming headers)).raw

/-- The request of a call is for its operation, with the context and the variables of the call. -/
lemma route_incoming {config : ClientConfig} {u : Url} (hbase : config.base = some u)
    (horigin : u.IsOrigin) (hroute : IsRoute config.route) {base : String}
    (hsame : dropEndChar '/' base = dropEndChar '/' config.route) {call : Call}
    (hkind : call.kind ≠ .subscription) (hname : IsName call.name)
    (hquery : call.transport.query = []) {documents : StoredDocuments} {document : String}
    (hdocument : documents.get? call.kind call.name = some document)
    (hobject : call.variableValues = .null ∨ ∃ members, call.variableValues = .record members)
    {v : Json} (hread : IncomingRequest.readVariables call.variableValues.compact = .ok v)
    {request : OutgoingRequest} (h : call.request config = .ok request) (headers : Headers) :
    route documents base (request.incoming headers) =
      .ok ⟨call.arriving request headers, document, v⟩ := by
  obtain ⟨hpath, hpairs⟩ := call.path_query_incoming hbase horigin hroute hname hquery h headers
  obtain ⟨hmethod, hbody⟩ := call.request_method_body h
  have hslash : '/' ∉ call.name.toList := fun hs =>
    absurd (hname.isSegment.unreserved '/' hs) (by decide)
  have htarget : target? base (request.incoming headers).path = some (call.kind, call.name) := by
    rw [hpath, target?_endpointPath hsame hkind hslash]
  have hmethod : (request.incoming headers).method = methodOf call.kind := hmethod
  have hbody : (request.incoming headers).body =
      if call.kind = .query then none else some call.variableValues.compact := by
    rw [OutgoingRequest.incoming, hbody]
    split <;> rfl
  have hvariables := call.variableValues_incoming hkind hpairs hbody hobject hread
  have hcontext := call.clientContext_parameters hpairs
  rw [route, htarget]
  simp [hmethod, hdocument, hvariables, hcontext, Call.arriving]

end Gateway

namespace Client

variable {R : Type} {decode : Json → Option R}

/-- An answer of success whose text is that of a body is decoded as the body. -/
lemma finish_body {c : Client} {key : Option String} {body : Json} {headers : Headers}
    (h : body.IsRestored Json.maxDepth) :
    (c.finish decode key (.ok ⟨200, headers, body.compact⟩)).1 = decodeBody decode body := by
  have hreceived : received (.ok ⟨200, headers, body.compact⟩) = .ok ⟨200, headers, body.compact⟩ :=
    rfl
  have hdecoded : decoded decode (.ok ⟨200, headers, body.compact⟩) =
      (decodeBody decode body).map fun response => (body, response) := by
    simp only [decoded, hreceived, bind, Except.bind, Json.read?_compact h]
    cases decodeBody decode body <;> rfl
  rw [finish, hdecoded]
  cases decodeBody decode body <;> rfl

/-- A call on its way is of an operation that can be called, with the request that it makes. -/
lemma request_of_start {c : Client} {call : Call} {p : Pending}
    (hinterceptor : c.config.interceptor = none) (h : c.start call = .pending p) :
    call.kind ≠ .subscription ∧ call.request c.config = .ok p.request := by
  unfold start at h
  split at h
  next => cases h
  next hkind =>
    refine ⟨hkind, ?_⟩
    simp only at h
    split at h
    next => cases h
    next =>
      split at h
      next => cases h
      next request hrequest =>
        cases h
        rw [hrequest, hinterceptor]
        rfl

/-- A call is on its way unless its answer is kept, where the host of the client is read from its
own text. -/
lemma exists_start {c : Client} {call : Call} {u : Url} (hbase : c.config.base = some u)
    (horigin : u.IsOrigin) (hroute : IsRoute c.config.route)
    (hhost : ∀ a ∈ u.authority, a.host.IsStable) (hname : IsName call.name)
    (hkind : call.kind ≠ .subscription) (hcache : (call.key? c.config).bind c.cache.get? = none) :
    ∃ p, c.start call = .pending p := by
  obtain ⟨request, hrequest⟩ := @Call.exists_request _ _ call hbase horigin hroute hhost hname
  refine ⟨⟨call.key? c.config, (c.config.interceptor.getD id) request⟩, ?_⟩
  rw [start, if_neg hkind]
  simp only [hcache, hrequest]

/-- So it is where the host of the client was read from a plain text. -/
theorem exists_start_of_isPlain {c : Client} {call : Call} {u : Url}
    (hbase : c.config.base = some u) (horigin : u.IsOrigin) (hroute : IsRoute c.config.route)
    (hhost : ∀ a ∈ u.authority, ∃ cs, Host.IsPlain cs ∧ Host.ofWeb cs = .ok a.host)
    (hname : IsName call.name) (hkind : call.kind ≠ .subscription)
    (hcache : (call.key? c.config).bind c.cache.get? = none) : ∃ p, c.start call = .pending p := by
  refine exists_start hbase horigin hroute (fun a ha => ?_) hname hkind hcache
  obtain ⟨cs, hplain, hread⟩ := hhost a ha
  exact hplain.isStable hread

/-- A call on its way is finished with the answer of the gateway. -/
lemma run_request {c : Client} {g : Gateway Id}
    {upstream : OutgoingRequest → Except Failure RawAnswer} {headers : Headers} {call : Call}
    {p : Pending} (hstart : c.start call = .pending p) {answer : GatewayAnswer}
    {events : List Event}
    (h : (g.traced.handle (Gateway.service upstream) (p.request.incoming headers)).run [] =
      (answer, events)) :
    (c.request (g.transport upstream headers) decode call).run [] =
      (c.finish decode p.key (.ok answer.raw), events) := by
  rw [request, hstart]
  simp only [Gateway.transport, bind_assoc, StateT.run_bind, h]
  rfl

/-- A call that makes a request over a gateway in front of a service. One request is sent to the
service, with the stored document, the variables and the name of the operation, and hooks are asked
about no other call than this one, with the context of the client. What the gateway makes of the
body that the service answers with is decoded, and a service that fails is a fault of the
gateway. -/
theorem request_over_gateway {c : Client} {g : Gateway Id}
    {upstream : OutgoingRequest → Except Failure RawAnswer} {headers : Headers} {call : Call}
    {p : Pending} {u service : Url} {document : String} (hbase : c.config.base = some u)
    (horigin : u.IsOrigin) (hroute : IsRoute c.config.route)
    (hsame : dropEndChar '/' g.options.route = dropEndChar '/' c.config.route)
    (hinterceptor : c.config.interceptor = none) (hname : IsName call.name)
    (hquery : call.transport.query = [])
    (hdocument : g.documents.get? call.kind call.name = some document)
    (hobject : call.variableValues = .null ∨ ∃ members, call.variableValues = .record members)
    (hrestored : call.variableValues.IsRestored Json.maxDepth) (hstart : c.start call = .pending p)
    (hservice : Url.read (Gateway.serviceOf g.options (call.arriving p.request headers)) =
      .ok service) :
    IncomingRequest.read p.request.method p.request.url.pathAndQuery =
        .ok { p.request.incoming .empty with body := none } ∧
      ∃ result client events request,
        (c.request (g.transport upstream headers) decode call).run [] = ((result, client), events) ∧
        events.filterMap Event.sent? = [request] ∧
        request.method = "POST" ∧
        request.body = some (.object [("query", .text document), ("variables", call.sentVariables),
          ("operationName", .text call.name)]) ∧
        (∀ asked, Event.asked asked ∈ events → asked = call.arriving p.request headers) ∧
        (∀ raw body, Gateway.bodyFrom (upstream request) = .ok (raw, body) →
          (Gateway.reshaped g.options (call.arriving p.request headers) raw body).IsRestored
            Json.maxDepth →
            result = decodeBody decode
              (Gateway.reshaped g.options (call.arriving p.request headers) raw body)) ∧
        (∀ raw body, Gateway.bodyFrom (upstream request) = .ok (raw, body) →
          g.options.hooks.response = none →
          body.EveryNumber Json.NumberSource.IsRestored → result = decodeBody decode body) ∧
        (∀ e, Gateway.bodyFrom (upstream request) = .error e →
          (∀ hook ∈ g.options.hooks.error, hook (call.arriving p.request headers) e = none) →
            result = .error (.server (some 500))) := by
  obtain ⟨hkind, hmade⟩ := request_of_start hinterceptor hstart
  refine ⟨call.read_request hbase horigin hroute hname hquery hmade, ?_⟩
  have hrouted := Gateway.route_incoming hbase horigin hroute hsame hkind hname hquery
    hdocument hobject (Call.readVariables_compact hrestored hobject) hmade headers
  obtain ⟨request, events, hrun, hmethod, hbody, hsent, hasked⟩ :=
    Gateway.exists_run_handle upstream hrouted hservice
  refine ⟨_, _, events, request, run_request hstart hrun, hsent, hmethod, hbody, hasked, ?_, ?_, ?_⟩
  · intro raw body hcame hreshaped
    rw [Gateway.answered, hcame]
    exact finish_body hreshaped
  · intro raw body hcame hhook hnumbers
    rw [Gateway.answered, hcame]
    simp only [Gateway.reshaped, hhook]
    exact finish_body (Json.isRestored_of_read? (Gateway.read?_of_bodyFrom hcame) hnumbers)
  · intro e hcame hhook
    rw [Gateway.answered, hcame]
    simp only [Gateway.run_fail, Gateway.failed_of_unanswered hhook]
    rfl

/-! ## An exchange -/

/-- An origin of a client. -/
def sampleOrigin : Url :=
  ⟨"https", some ⟨"", "", .domain "a", none⟩, "/", none, none⟩

/-- A client of the origin that keeps no answers. -/
def sampleClient : Client :=
  ⟨{ ClientConfig.new "https://a" with base := some sampleOrigin }, .new 30⟩

/-- A gateway with one query. -/
def sampleGateway : Gateway Id :=
  ⟨StoredDocuments.empty.insert .query "q" "query q \x7b a \x7d", .new "https://a"⟩

/-- A call of the query with a value for its variable. -/
def sampleCall (value : JsonNumber) : Call :=
  ⟨.query, "q", .record [("x", .number value)], .none, .ofList [("locale", "en")], .unchanged⟩

/-- An answer of the service. -/
def sampleAnswer : Json :=
  .record [("data", .null)]

lemma read_sampleOrigin : Url.read "https://a" = .ok sampleOrigin := by
  decide +kernel

lemma isOrigin_sampleOrigin : sampleOrigin.IsOrigin :=
  isOrigin_of_read read_sampleOrigin (.inr rfl) (by rintro a ⟨⟩; exact ⟨rfl, rfl⟩) rfl rfl rfl

lemma isRoute_defaultRoute : IsRoute defaultRoute := by
  refine ⟨["api".toList, "graphql_middleware".toList], 0, ?_, rfl⟩
  simp only [List.mem_cons, List.not_mem_nil, or_false, forall_eq_or_imp, forall_eq]
  constructor <;> exact ⟨by decide, by decide, by decide, List.all_eq_true.1 (by decide)⟩

lemma isName_sample : IsName "q" :=
  ⟨'q', [], rfl, rfl, by simp⟩

/-- The host of the origin is read from a plain text. -/
lemma exists_isPlain_sampleOrigin :
    ∀ a ∈ sampleOrigin.authority, ∃ cs, Host.IsPlain cs ∧ Host.ofWeb cs = .ok a.host := by
  rintro a ⟨⟩
  have hplain : Host.IsPlain ['a'] := {
    ascii := List.forall_mem_singleton.2 (by decide)
    head := by decide
    unmarked := by decide }
  exact ⟨['a'], hplain, by decide +kernel⟩

lemma isStable_sampleOrigin : ∀ a ∈ sampleOrigin.authority, a.host.IsStable := by
  intro a ha
  obtain ⟨cs, hplain, hread⟩ := exists_isPlain_sampleOrigin a ha
  exact hplain.isStable hread

lemma exists_start_sample (value : JsonNumber) :
    ∃ p, sampleClient.start (sampleCall value) = .pending p :=
  exists_start_of_isPlain rfl isOrigin_sampleOrigin isRoute_defaultRoute
    exists_isPlain_sampleOrigin isName_sample (fun h => nomatch h) rfl

theorem request_over_gateway_sample :
    ∃ p result client events request,
      sampleClient.start (sampleCall (.integer 1)) = .pending p ∧
      (sampleClient.request
        (sampleGateway.transport (fun _ => .ok ⟨200, .empty, sampleAnswer.compact⟩) .empty)
        some (sampleCall (.integer 1))).run [] = ((result, client), events) ∧
      events.filterMap Event.sent? = [request] ∧
      request.body = some (.object [("query", .text "query q \x7b a \x7d"),
        ("variables", .record [("x", .number (.integer 1))]), ("operationName", .text "q")]) ∧
      result = decodeBody some sampleAnswer := by
  obtain ⟨p, hstart⟩ := exists_start_sample (.integer 1)
  have hrestored : (sampleCall (.integer 1)).variableValues.IsRestored Json.maxDepth :=
    .record (by simp) (by
      simp only [List.mem_singleton, forall_eq]
      exact .number _ (Json.NumberSource.isRestored_integer (by decide) (by decide)))
  have hanswer : sampleAnswer.IsRestored Json.maxDepth :=
    .record (by simp) (by simp [Json.IsRestored.null])
  obtain ⟨-, result, client, events, request, hrun, hsent, -, hbody, -, hresult, -⟩ :=
    @request_over_gateway _ some sampleClient sampleGateway
      (fun _ => .ok ⟨200, .empty, sampleAnswer.compact⟩)
      .empty (sampleCall (.integer 1)) p sampleOrigin sampleOrigin _ rfl isOrigin_sampleOrigin
      isRoute_defaultRoute rfl rfl isName_sample rfl rfl (.inr ⟨_, rfl⟩) hrestored hstart
      read_sampleOrigin
  have hcame : Gateway.bodyFrom (.ok ⟨200, .empty, sampleAnswer.compact⟩) =
      .ok (⟨200, .empty, sampleAnswer.compact⟩, sampleAnswer) := by
    simp only [Gateway.bodyFrom, bind, Except.bind, Json.read?_compact hanswer]
    rfl
  exact ⟨p, result, client, events, request, hstart, hrun, hsent, hbody, hresult _ _ hcame hanswer⟩

/-- The number that is written `3e+23` is read as the number below it. -/
lemma readVariables_changed :
    IncomingRequest.readVariables
        (Json.record [("x", .number (.double (.finite false 8940696716308594 25)))]).compact =
      .ok (.record [("x", .number (.double (.finite false 8940696716308593 25)))]) := by
  have hfinite :
      (Json.record [("x", .number (.double (.finite false 8940696716308594 25)))]).EveryNumber
        JsonNumber.IsFinite := by
    refine .record fun m hm => ?_
    obtain rfl := List.mem_singleton.1 hm
    exact .number fun negative h => nomatch h
  have hnumber :
      (Json.NumberSource.ofNumber (.double (.finite false 8940696716308594 25))).toNumber? =
      some (.double (.finite false 8940696716308593 25)) := by
    decide +kernel
  have hread : Json.read?
      (Json.record [("x", .number (.double (.finite false 8940696716308594 25)))]).compact =
      some (.record [("x", .number (.double (.finite false 8940696716308593 25)))]) := by
    rw [Json.read?_compact_eq hfinite, Json.maxDepth, Json.Source.ofJson, Json.Source.ofMembers,
      Json.Source.ofMembers, Json.Source.ofJson, Json.Source.toJson?, Json.Source.toMembers?,
      Json.Source.toMembers?, Json.Source.toJson?, hnumber, Json.Source.textOf?_map]
    rfl
  rw [Call.readVariables_compact_eq (.inr ⟨_, rfl⟩), hread]

/-- A number whose text is read as another number changes on its way. -/
theorem request_over_gateway_changes_number :
    ∃ p result client events request,
      sampleClient.start (sampleCall (.double (.finite false 8940696716308594 25))) = .pending p ∧
      (sampleClient.request
        (sampleGateway.transport (fun _ => .ok ⟨200, .empty, sampleAnswer.compact⟩) .empty)
        some (sampleCall (.double (.finite false 8940696716308594 25)))).run [] =
        ((result, client), events) ∧
      events.filterMap Event.sent? = [request] ∧
      request.body = some (.object [("query", .text "query q \x7b a \x7d"),
        ("variables", .record [("x", .number (.double (.finite false 8940696716308593 25)))]),
        ("operationName", .text "q")]) := by
  obtain ⟨p, hstart⟩ := exists_start_sample (.double (.finite false 8940696716308594 25))
  obtain ⟨hkind, hmade⟩ := request_of_start rfl hstart
  have hdocument : sampleGateway.documents.get? .query "q" = some "query q \x7b a \x7d" := rfl
  have hrouted := Gateway.route_incoming rfl isOrigin_sampleOrigin isRoute_defaultRoute rfl
    hkind isName_sample rfl hdocument (.inr ⟨_, rfl⟩) readVariables_changed hmade .empty
  obtain ⟨request, events, hrun, -, hbody, hsent, -⟩ := Gateway.exists_run_handle
    (fun _ => .ok ⟨200, .empty, sampleAnswer.compact⟩) hrouted read_sampleOrigin
  exact ⟨p, _, _, events, request, hstart, run_request hstart hrun, hsent, hbody⟩

end Client

end OperationGate
