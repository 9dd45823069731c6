import Mathlib
import OperationGate.Proofs.Gateway.Headers

/-!
# Extra parameters

A call can give settings of the transport, with parameters that are added to the address of its
request behind those of the call. A gateway does not see them where the call has variables: the
request is routed as it is without them (`Gateway.route_withParameters`), so the variables of the
call are sent to the service: `Gateway.variables_of_extras`.

A call without variables has no parameter for them. A gateway then takes all plain parameters for
variables, and so what is added to the address (`Call.variableValues_of_not_hasVariables`): see
`Gateway.exists_extra_variable`.
-/

namespace OperationGate

open Text Url

namespace IncomingRequest

/-- A request with parameters added to those of its address. -/
def withParameters (r : IncomingRequest) (extras : List (String × String)) : IncomingRequest :=
  { r with query := r.query ++ extras }

/-- Tells that parameters are neither for the context of a client nor for variables. -/
def ArePlain (extras : List (String × String)) : Prop :=
  ∀ p ∈ extras, p.1 ≠ "variables" ∧ afterFront? contextMark p.1 = none

lemma arePlain_nil : ArePlain [] :=
  fun _ hp => absurd hp List.not_mem_nil

variable {r : IncomingRequest} {extras : List (String × String)}

/-- Plain parameters say nothing about the client. -/
lemma clientContext_withParameters (hextras : ArePlain extras) :
    (r.withParameters extras).clientContext = r.clientContext := by
  have hnone : (extras.filterMap fun p => (afterFront? contextMark p.1).map fun key => (key, p.2)) =
      [] := by
    refine List.filterMap_eq_nil_iff.2 fun p hp => ?_
    rw [(hextras p hp).2, Option.map_none]
  rw [clientContext, clientContext, withParameters, List.filterMap_append, hnone, List.append_nil]

/-- Behind a parameter for variables, others do not matter. -/
lemma variableValues_withParameters (h : (∃ p ∈ r.query, p.1 = "variables") ∨ extras = [])
    (kind : OperationKind) :
    (r.withParameters extras).variableValues kind = r.variableValues kind := by
  rcases h with ⟨p, hp, hname⟩ | rfl
  · by_cases hkind : kind = .query
    · subst hkind
      rcases exists_parameter_or_plain r.query with ⟨before, text, after, hquery, hbefore⟩ | hnone
      · have hmore : (r.withParameters extras).query =
            before ++ ("variables", text) :: (after ++ extras) := by
          rw [withParameters, hquery]
          simp
        rw [variableValues_of_parameter hquery hbefore, variableValues_of_parameter hmore hbefore]
      · exact absurd hname (hnone p hp)
    · rw [variableValues_of_body hkind, variableValues_of_body hkind]
      rfl
  · rw [withParameters, List.append_nil]

/-- Behind parameters with the mark alone, plain parameters are the variables of a query. -/
lemma variableValues_of_extras (hextras : ArePlain extras)
    (hmarked : ∀ p ∈ r.query, ∃ key, p.1 = contextMark ++ key) :
    (r.withParameters extras).variableValues .query =
    .ok (.object (extras.map fun p => (p.1, .text p.2))) := by
  have hnone : ∀ p ∈ (r.withParameters extras).query, p.1 ≠ "variables" := by
    intro p hp
    rcases List.mem_append.1 hp with hp | hp
    · obtain ⟨key, hkey⟩ := hmarked p hp
      exact hkey ▸ Call.contextMark_append_ne key
    · exact (hextras p hp).1
  have hdropped : (r.query.filter fun p => (afterFront? contextMark p.1).isNone) = [] := by
    refine List.filter_eq_nil_iff.2 fun p hp => ?_
    obtain ⟨key, hkey⟩ := hmarked p hp
    simp [hkey, afterFront?_append]
  have hkept : (extras.filter fun p => (afterFront? contextMark p.1).isNone) = extras :=
    List.filter_eq_self.2 fun p hp => by simp [(hextras p hp).2]
  rw [variableValues_of_plain hnone, plainVariables, withParameters, List.filter_append,
    hdropped, hkept, List.nil_append]

end IncomingRequest

/-! ## Calls with extra parameters -/

namespace Call

variable {config : ClientConfig} {call : Call}

/-- A call without the parameters of its settings of the transport. -/
def withoutExtras (call : Call) : Call :=
  { call with transport := { call.transport with query := [] } }

/-- The settings of the transport are applied last, to a request with the parameters of the call. -/
lemma exists_request_apply {request : OutgoingRequest} (h : call.request config = .ok request) :
    ∃ url r, config.endpoint call.kind call.name = .ok url ∧
      r.url = (url.appendPairs call.parameters).dropEmptyQuery ∧
      ∀ settings, { call with transport := settings }.request config = .ok (settings.apply r) := by
  obtain ⟨url, hurl, -⟩ := bind_eq_ok.1 h
  refine ⟨url, if call.kind = .query then
    .new "GET" (url.appendPairs call.parameters).dropEmptyQuery
    else { OutgoingRequest.new "POST" (url.appendPairs call.parameters).dropEmptyQuery with
      body := some call.variableValues }, hurl, ?_, fun settings => bind_eq_ok.2 ⟨url, hurl, rfl⟩⟩
  split <;> rfl

/-- The request of a call comes in as the one without extra parameters, with these behind its
own. -/
lemma exists_request_withoutExtras {request : OutgoingRequest}
    (h : call.request config = .ok request) :
    ∃ plain, call.withoutExtras.request config = .ok plain ∧ ∀ headers,
      request.incoming headers = (plain.incoming headers).withParameters call.transport.query := by
  obtain ⟨url, r, -, -, happly⟩ := exists_request_apply h
  have hrequest : request = call.transport.apply r := Except.ok.inj (h.symm.trans (happly _))
  refine ⟨_, happly { call.transport with query := [] }, fun headers => ?_⟩
  rw [hrequest]
  cases hquery : call.transport.query with
  | nil => simp [OutgoingRequest.incoming, IncomingRequest.withParameters,
      TransportOptions.apply, hquery]
  | cons p rest =>
    simp [OutgoingRequest.incoming, IncomingRequest.withParameters, TransportOptions.apply, hquery,
      queryPairs_appendPairs]
    rfl

/-- What a call sends comes in with the path of the endpoint, whatever parameters it has. -/
lemma path_incoming {u : Url} (hbase : config.base = some u) (horigin : u.IsOrigin)
    (hroute : IsRoute config.route) (hname : IsName call.name) {request : OutgoingRequest}
    (h : call.request config = .ok request) (headers : Headers) :
    (request.incoming headers).path = endpointPath config.route call.kind call.name := by
  obtain ⟨plain, hplain, hincoming⟩ := exists_request_withoutExtras h
  rw [hincoming]
  exact (call.withoutExtras.path_query_incoming hbase horigin hroute hname rfl hplain headers).1

/-- The parameters of a call come in behind those of the endpoint. -/
lemma query_incoming_of_withoutExtras {plain : OutgoingRequest}
    (h : call.withoutExtras.request config = .ok plain) (headers : Headers) :
    ∃ url, config.endpoint call.kind call.name = .ok url ∧
      (plain.incoming headers).query = url.queryPairs ++ call.parameters := by
  obtain ⟨url, r, hurl, hr, happly⟩ := exists_request_apply h
  have hplain : plain = { call.transport with query := [] }.apply r :=
    Except.ok.inj (h.symm.trans (happly _))
  have hpairs : (plain.incoming headers).query = r.url.queryPairs := by
    rw [hplain]
    rfl
  refine ⟨url, hurl, ?_⟩
  rw [hpairs, hr, queryPairs_dropEmptyQuery, queryPairs_appendPairs]
  rfl

/-- Tells that the address of its endpoint gives a call no variables: it has no parameter for them,
and no plain one if the call has none to send. -/
def HasBareEndpoint (config : ClientConfig) (call : Call) : Prop :=
  ∀ url, config.endpoint call.kind call.name = .ok url → ∀ p ∈ url.queryPairs,
    p.1 ≠ "variables" ∧ (hasVariables call.variableValues ∨ ∃ key, p.1 = contextMark ++ key)

/-- The endpoint of a name as documents have it is below an origin without parameters. -/
lemma hasBareEndpoint_of_isName {u : Url} (hbase : config.base = some u) (horigin : u.IsOrigin)
    (hroute : IsRoute config.route) (hname : IsName call.name) : call.HasBareEndpoint config := by
  obtain ⟨host, port, -, hendpoint⟩ := config.endpoint_eq hbase horigin hroute hname call.kind
  intro url hurl p hp
  rw [hendpoint] at hurl
  cases hhost : Host.ofWeb host.text.toList with
  | error e =>
    rw [hhost] at hurl
    cases hurl
  | ok h =>
    rw [hhost] at hurl
    cases hurl
    cases hp

/-- A query with variables has a parameter for them. -/
lemma exists_parameter_of_hasVariables (hkind : call.kind = .query)
    (h : hasVariables call.variableValues) {plain : OutgoingRequest}
    (hplain : call.withoutExtras.request config = .ok plain) (headers : Headers) :
    ∃ p ∈ (plain.incoming headers).query, p.1 = "variables" := by
  obtain ⟨url, -, hquery⟩ := query_incoming_of_withoutExtras hplain headers
  refine ⟨("variables", call.variableValues.compact), ?_, rfl⟩
  rw [hquery, parameters]
  simp [hkind, h]

/-- A call without variables has parameters with the mark alone. -/
lemma marked_of_not_hasVariables (hhas : ¬hasVariables call.variableValues)
    (hbare : call.HasBareEndpoint config) {plain : OutgoingRequest}
    (hplain : call.withoutExtras.request config = .ok plain) (headers : Headers) :
    ∀ p ∈ (plain.incoming headers).query, ∃ key, p.1 = contextMark ++ key := by
  obtain ⟨url, hurl, hquery⟩ := query_incoming_of_withoutExtras hplain headers
  intro p hp
  rw [hquery, parameters] at hp
  rcases List.mem_append.1 hp with hp | hp
  · exact (hbare url hurl p hp).2.resolve_left hhas
  · simp only [hhas, Bool.and_false, Bool.false_eq_true, if_false, List.nil_append] at hp
    obtain ⟨e, -, rfl⟩ := List.mem_map.1 hp
    exact ⟨e.1, rfl⟩

/-- A gateway reads the variables of a query from its request, null as none. -/
lemma variableValues_of_hasBareEndpoint (hkind : call.kind = .query)
    (hobject : call.variableValues = .null ∨ ∃ members, call.variableValues = .record members)
    (hrestored : call.variableValues.IsRestored Json.maxDepth) (hbare : call.HasBareEndpoint config)
    {plain : OutgoingRequest} (hplain : call.withoutExtras.request config = .ok plain)
    (headers : Headers) :
    (plain.incoming headers).variableValues .query = .ok call.sentVariables := by
  obtain ⟨url, hurl, hquery⟩ := query_incoming_of_withoutExtras hplain headers
  have hread := readVariables_compact hrestored hobject
  by_cases hhas : hasVariables call.variableValues
  · have hparameter : (plain.incoming headers).query =
        url.queryPairs ++ ("variables", call.variableValues.compact) ::
        call.context.entries.map fun e => (contextMark ++ e.1, e.2) := by
      rw [hquery, parameters]
      simp [hkind, hhas]
    rw [IncomingRequest.variableValues_of_parameter hparameter fun p hp => (hbare url hurl p hp).1,
      hread]
  · have hmarked := marked_of_not_hasVariables hhas hbare hplain headers
    have hnothing := IncomingRequest.variableValues_of_extras IncomingRequest.arePlain_nil hmarked
    rw [IncomingRequest.withParameters, List.append_nil] at hnothing
    rw [eq_emptyObject_of_not_hasVariables hhas hobject hread]
    exact hnothing

/-- Where a call has no variables, its extra parameters are read as variables. -/
theorem variableValues_of_not_hasVariables {request : OutgoingRequest}
    (hextras : IncomingRequest.ArePlain call.transport.query)
    (hhas : ¬hasVariables call.variableValues) (hbare : call.HasBareEndpoint config)
    (h : call.request config = .ok request) (headers : Headers) :
    (request.incoming headers).variableValues .query =
      .ok (.object (call.transport.query.map fun p => (p.1, .text p.2))) := by
  obtain ⟨plain, hplain, hincoming⟩ := exists_request_withoutExtras h
  rw [hincoming]
  exact IncomingRequest.variableValues_of_extras hextras
    (marked_of_not_hasVariables hhas hbare hplain headers)

end Call

/-! ## What is sent for them -/

namespace Gateway

variable {config : ClientConfig} {call : Call} {g : Gateway Id}
  {upstream : OutgoingRequest → Except Failure RawAnswer} {r : IncomingRequest}
  {extras : List (String × String)}

/-- A request is routed as it is without plain parameters that it also has. -/
theorem route_withParameters (documents : StoredDocuments) (base : String)
    (hextras : IncomingRequest.ArePlain extras)
    (h : (∃ p ∈ r.query, p.1 = "variables") ∨ extras = []) :
    route documents base (r.withParameters extras) =
      (route documents base r).map fun x => { x with call.request := r.withParameters extras } := by
  have hpath : (r.withParameters extras).path = r.path := rfl
  have hmethod : (r.withParameters extras).method = r.method := rfl
  simp only [route, hpath, hmethod, IncomingRequest.variableValues_withParameters h,
    IncomingRequest.clientContext_withParameters hextras]
  cases target? base r.path with
  | none => rfl
  | some target =>
    obtain ⟨kind, name⟩ := target
    dsimp only
    split
    next => rfl
    next =>
      cases documents.get? kind name with
      | none => rfl
      | some document =>
        dsimp only
        cases r.variableValues kind with
        | error message => rfl
        | ok v => rfl

/-- What is sent has the body of what the request is routed to. -/
lemma exists_route_of_mem_sentFor {sent : OutgoingRequest} (h : sent ∈ sentFor g upstream r) :
    ∃ x, route g.documents g.options.route r = .ok x ∧ sent.body = some (bodyOf x) := by
  obtain ⟨x, hx, -, hbody⟩ := (isHandled g upstream r).posted h
  exact ⟨x, route_eq_ok_iff.2 hx, hbody⟩

/-- The same is sent for requests that are routed alike. -/
lemma body_eq_of_route {r' : IncomingRequest}
    (hroute : route g.documents g.options.route r' =
      (route g.documents g.options.route r).map fun x => { x with call.request := r' })
    {sent other : OutgoingRequest} (hsent : sent ∈ sentFor g upstream r')
    (hother : other ∈ sentFor g upstream r) : sent.body = other.body := by
  obtain ⟨x, hx, hbody⟩ := exists_route_of_mem_sentFor hsent
  obtain ⟨y, hy, hother⟩ := exists_route_of_mem_sentFor hother
  rw [hx, hy] at hroute
  obtain rfl : x = { y with call.request := r' } := Except.ok.inj hroute
  rw [hbody, hother]
  rfl

/-- The request of a query is routed with the variables that are read from it. -/
lemma variableValues_eq_of_isRouted {request : OutgoingRequest} {headers : Headers}
    (hkind : call.kind = .query) (h : call.request config = .ok request) {x : Routed}
    (hx : IsRouted g.documents g.options.route (request.incoming headers) x) :
    (request.incoming headers).variableValues .query = .ok x.variableValues := by
  have hmethod : methodOf x.call.kind = "GET" :=
    hx.method.symm.trans ((call.request_method_body h).1.trans (if_pos hkind))
  have hquery : x.call.kind = .query := by
    unfold methodOf at hmethod
    split at hmethod
    next hquery => exact hquery
    next => exact absurd hmethod (by decide)
  exact hquery ▸ IncomingRequest.variableValues_eq_ok_iff.2 hx.given

/-- The request of a query with extra parameters is routed with the variables of the call. -/
lemma variableValues_of_isRouted {request plain : OutgoingRequest} {headers : Headers}
    (hkind : call.kind = .query)
    (hown : (∃ p ∈ (plain.incoming headers).query, p.1 = "variables") ∨ call.transport.query = [])
    (hobject : call.variableValues = .null ∨ ∃ members, call.variableValues = .record members)
    (hrestored : call.variableValues.IsRestored Json.maxDepth) (hbare : call.HasBareEndpoint config)
    (h : call.request config = .ok request) (hplain : call.withoutExtras.request config = .ok plain)
    (hincoming : request.incoming headers =
      (plain.incoming headers).withParameters call.transport.query)
    {x : Routed} (hx : IsRouted g.documents g.options.route (request.incoming headers) x) :
    x.variableValues = call.sentVariables := by
  have hread := variableValues_eq_of_isRouted hkind h hx
  rw [hincoming, IncomingRequest.variableValues_withParameters hown,
    Call.variableValues_of_hasBareEndpoint hkind hobject hrestored hbare hplain headers] at hread
  exact (Except.ok.inj hread).symm

/-- A query that a client calls with plain extra parameters, and with variables unless there are
none of these. Its request is routed as it is without them, so that the same is sent. Null or a
record that is read back from its text is sent as it is, null as no variables, unless the address of
the endpoint gives others. -/
theorem variables_of_extras {request : OutgoingRequest} (hkind : call.kind = .query)
    (hextras : IncomingRequest.ArePlain call.transport.query)
    (hgiven : Call.hasVariables call.variableValues ∨ call.transport.query = [])
    (h : call.request config = .ok request) :
    ∃ plain, call.withoutExtras.request config = .ok plain ∧
      ∀ (g : Gateway Id) (upstream : OutgoingRequest → Except Failure RawAnswer)
        (headers : Headers),
        route g.documents g.options.route (request.incoming headers) =
          (route g.documents g.options.route (plain.incoming headers)).map
            (fun x => { x with call.request := request.incoming headers }) ∧
        (∀ sent ∈ sentFor g upstream (request.incoming headers),
          ∀ other ∈ sentFor g upstream (plain.incoming headers), sent.body = other.body) ∧
        ((call.variableValues = .null ∨ ∃ members, call.variableValues = .record members) →
          call.variableValues.IsRestored Json.maxDepth → call.HasBareEndpoint config →
          ∀ x, IsRouted g.documents g.options.route (request.incoming headers) x →
            x.variableValues = call.sentVariables ∧
            ∀ service, Url.read (serviceOf g.options x.call) = .ok service →
              ∃ sent, sentFor g upstream (request.incoming headers) = [sent] ∧
                sent.body =
                some (.object [("query", .text x.document), ("variables", call.sentVariables),
                  ("operationName", .text x.call.name)])) := by
  obtain ⟨plain, hplain, hincoming⟩ := Call.exists_request_withoutExtras h
  refine ⟨plain, hplain, fun g upstream headers => ?_⟩
  have hown : (∃ p ∈ (plain.incoming headers).query, p.1 = "variables") ∨
      call.transport.query = [] :=
    hgiven.imp_left fun hhas => Call.exists_parameter_of_hasVariables hkind hhas hplain headers
  have hroute := route_withParameters g.documents g.options.route hextras hown
  rw [← hincoming headers] at hroute
  refine ⟨hroute, fun sent hsent other hother => body_eq_of_route hroute hsent hother, ?_⟩
  intro hobject hrestored hbare x hx
  have hvariables := variableValues_of_isRouted hkind hown hobject hrestored hbare h hplain
    (hincoming headers) hx
  refine ⟨hvariables, fun service hservice => ?_⟩
  obtain ⟨sent, -, hsent, -, hbody⟩ := @exists_sentFor g upstream _ x hx service hservice
  exact ⟨sent, hsent, by rw [hbody, bodyOf, hvariables]⟩

/-! ## Calls of one query -/

/-- A call of a query with an extra parameter. -/
def localizedCall (v : Json) : Call :=
  { Client.sampleCall (.integer 1) with
    variableValues := v
    transport := { TransportOptions.none with query := [("locale", "de")] } }

lemma arePlain_localizedCall (v : Json) :
    IncomingRequest.ArePlain (localizedCall v).transport.query := by
  intro p hp
  obtain rfl := List.mem_singleton.1 hp
  exact ⟨by decide, by decide⟩

lemma hasBareEndpoint_localizedCall (v : Json) :
    (localizedCall v).HasBareEndpoint Client.sampleClient.config :=
  Call.hasBareEndpoint_of_isName rfl Client.isOrigin_sampleOrigin Client.isRoute_defaultRoute
    Client.isName_sample

lemma exists_request_localizedCall (v : Json) :
    ∃ request, (localizedCall v).request Client.sampleClient.config = .ok request :=
  Call.exists_request rfl Client.isOrigin_sampleOrigin Client.isRoute_defaultRoute
    Client.isStable_sampleOrigin Client.isName_sample

/-- What the call sends is for the query of the gateway, with the variables that are read. -/
lemma isRouted_localizedCall {v values : Json} {request : OutgoingRequest}
    (h : (localizedCall v).request Client.sampleClient.config = .ok request)
    (hvalues : (request.incoming .empty).variableValues .query = .ok values) :
    IsRouted Client.sampleGateway.documents Client.sampleGateway.options.route
      (request.incoming .empty)
      ⟨⟨.query, "q", (request.incoming .empty).clientContext, request.incoming .empty⟩,
        "query q \x7b a \x7d", values⟩ where
  target :=
    ⟨Call.path_incoming rfl Client.isOrigin_sampleOrigin Client.isRoute_defaultRoute
      Client.isName_sample h .empty, .inl rfl, (by decide : '/' ∉ "q".toList)⟩
  method := (Call.request_method_body h).1
  stored := rfl
  given := IncomingRequest.variableValues_eq_ok_iff.1 hvalues
  context := rfl
  request := rfl

/-- Without its extra parameter the call is routed with its own variables. -/
lemma route_localizedCall_withoutExtras {v : Json}
    (hobject : v = .null ∨ ∃ members, v = .record members) (hrestored : v.IsRestored Json.maxDepth)
    {plain : OutgoingRequest}
    (hplain : (localizedCall v).withoutExtras.request Client.sampleClient.config = .ok plain) :
    route Client.sampleGateway.documents Client.sampleGateway.options.route
      (plain.incoming .empty) =
      .ok ⟨(localizedCall v).withoutExtras.arriving plain .empty, "query q \x7b a \x7d",
        (localizedCall v).sentVariables⟩ := by
  have hdocument : Client.sampleGateway.documents.get? .query "q" = some "query q \x7b a \x7d" :=
    rfl
  have hread := @Call.readVariables_compact (localizedCall v) hrestored hobject
  exact @route_incoming Client.sampleClient.config _ rfl Client.isOrigin_sampleOrigin
    Client.isRoute_defaultRoute defaultRoute rfl (localizedCall v).withoutExtras
    (show OperationKind.query ≠ .subscription by decide) Client.isName_sample rfl _ _ hdocument
    hobject _ hread _ hplain .empty

/-- A variable is sent, and the extra parameter is not taken for one. -/
theorem variables_of_extras_sample :
    ∃ request sent,
      (localizedCall (.record [("x", .text "1")])).request Client.sampleClient.config =
        .ok request ∧
      sentFor Client.sampleGateway refusal (request.incoming .empty) = [sent] ∧
      sent.body = some (.object [("query", .text "query q \x7b a \x7d"),
        ("variables", .record [("x", .text "1")]), ("operationName", .text "q")]) := by
  have hobject : (localizedCall (.record [("x", .text "1")])).variableValues = .null ∨
      ∃ members, (localizedCall (.record [("x", .text "1")])).variableValues = .record members :=
        .inr ⟨_, rfl⟩
  have hrestored : (localizedCall (.record [("x", .text "1")])).variableValues.IsRestored
      Json.maxDepth :=
    .record (by simp) (by simp [Json.IsRestored.text])
  obtain ⟨request, h⟩ := exists_request_localizedCall (.record [("x", .text "1")])
  obtain ⟨plain, hplain, hall⟩ := variables_of_extras rfl (arePlain_localizedCall _) (.inl rfl) h
  obtain ⟨hroute, -, hown⟩ := hall Client.sampleGateway refusal .empty
  rw [route_localizedCall_withoutExtras hobject hrestored hplain] at hroute
  obtain ⟨-, hsent⟩ :=
    hown hobject hrestored (hasBareEndpoint_localizedCall _) _ (route_eq_ok_iff.1 hroute)
  obtain ⟨sent, hsent, hbody⟩ := hsent _ Client.read_sampleOrigin
  exact ⟨request, sent, h, hsent, hbody⟩

/-- Of a call without variables the extra parameter is sent as one. -/
theorem exists_extra_variable :
    IncomingRequest.ArePlain (localizedCall .null).transport.query ∧
    ∃ request plain sent other,
      (localizedCall .null).request Client.sampleClient.config = .ok request ∧
      (localizedCall .null).withoutExtras.request Client.sampleClient.config = .ok plain ∧
      sentFor Client.sampleGateway refusal (request.incoming .empty) = [sent] ∧
      sentFor Client.sampleGateway refusal (plain.incoming .empty) = [other] ∧
      sent.body = some (.object [("query", .text "query q \x7b a \x7d"),
        ("variables", .record [("locale", .text "de")]), ("operationName", .text "q")]) ∧
      other.body =
      some (.object [("query", .text "query q \x7b a \x7d"), ("variables", .emptyObject),
        ("operationName", .text "q")]) := by
  obtain ⟨request, h⟩ := exists_request_localizedCall .null
  obtain ⟨plain, hplain, -⟩ := Call.exists_request_withoutExtras h
  have hvalues := Call.variableValues_of_not_hasVariables (arePlain_localizedCall .null)
    (show ¬Call.hasVariables .null by decide) (hasBareEndpoint_localizedCall .null) h .empty
  obtain ⟨sent, -, hsent, -, hbody⟩ := @exists_sentFor Client.sampleGateway refusal _ _
    (isRouted_localizedCall h hvalues) _ Client.read_sampleOrigin
  obtain ⟨other, -, hother, -, hotherBody⟩ := @exists_sentFor Client.sampleGateway refusal _ _
    (route_eq_ok_iff.1 (route_localizedCall_withoutExtras (.inl rfl) (.null _) hplain))
      _ Client.read_sampleOrigin
  exact ⟨arePlain_localizedCall .null, request, plain, sent, other, h, hplain, hsent, hother,
    hbody, hotherBody⟩

end Gateway

end OperationGate
