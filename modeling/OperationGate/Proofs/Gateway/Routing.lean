import Mathlib
import OperationGate.Proofs.Gateway.Trace
import OperationGate.Proofs.Table

/-!
# The routes of a gateway

A gateway answers every request. A request is for an operation if its path names a stored one, its
method is that of the kind, and its variables can be read (`IsRouted`); these are just the requests
that are routed (`route_eq_ok_iff`). What is refused, and with which answer, follows from the first
of these that fails.

`isHandled` says what handling a request comes to: at most one request is sent, it is sent just for
a request that is routed to a service with an address, and the answer is that of the service or says
what failed.
-/

namespace OperationGate

open Text

/-! ## Variables -/

namespace IncomingRequest

/-- The variables that a text stands for: none if it is blank or null, and otherwise the members of
a record. -/
inductive StandsFor : String → Json → Prop where
  | blank {text : String} : trimmed text = "" → StandsFor text .emptyObject
  | null {text : String} : trimmed text ≠ "" → Json.read? (trimmed text) = some .null →
    StandsFor text .emptyObject
  | record {text : String} {members : List (String × Json)} :
    trimmed text ≠ "" → Json.read? (trimmed text) = some (.record members) →
    StandsFor text (.record members)

/-- The variables that a request gives an operation of a kind: those that the first parameter for
variables stands for in a query; without one, its parameters that are not marked, the last of each
name, as texts; and those that the body stands for in any other operation. -/
inductive Gives (r : IncomingRequest) : OperationKind → Json → Prop where
  | parameter {before after : List (String × String)} {text : String} {v : Json} :
    r.query = before ++ ("variables", text) :: after → (∀ p ∈ before, p.1 ≠ "variables") →
      StandsFor text v → Gives r .query v
  | plain {members : List (String × Json)} :
    (∀ p ∈ r.query, p.1 ≠ "variables") → (members.Pairwise fun a b => a.1 < b.1) →
      (∀ k v, (k, v) ∈ members ↔
        afterFront? contextMark k = none ∧ ∃ text, v = .text text ∧ Table.IsLast r.query k text) →
      Gives r .query (.record members)
  | body {kind : OperationKind} {v : Json} : kind ≠ .query → StandsFor (r.body.getD "") v →
    Gives r kind v

lemma readVariables_eq_ok_iff {text : String} {v : Json} :
    readVariables text = .ok v ↔ StandsFor text v := by
  unfold readVariables
  simp only
  constructor
  · intro h
    split at h
    next hblank =>
      cases h
      exact .blank hblank
    next hblank =>
      split at h
      next members hread =>
        cases h
        exact .record hblank hread
      next hread =>
        cases h
        exact .null hblank hread
      next => cases h
      next => cases h
  · intro h
    cases h with
    | blank hblank => rw [if_pos hblank]
    | null hblank hread => rw [if_neg hblank, hread]
    | record hblank hread => rw [if_neg hblank, hread]

/-- Plain variables are the last of each name among the parameters that are not marked. -/
lemma get?_plain_iff {query : List (String × String)} {k : String} {v : Json} :
    (Table.ofList ((query.filter fun p => (afterFront? contextMark p.1).isNone).map fun p =>
        (p.1, Json.text p.2))).get? k = some v ↔
      afterFront? contextMark k = none ∧ ∃ text, v = .text text ∧ Table.IsLast query k text := by
  rw [Table.get?_ofList_eq_some_iff_isLast]
  induction query using List.reverseRecOn with
  | nil => simp [Table.IsLast]
  | append_singleton query p ih =>
    obtain ⟨k', text'⟩ := p
    rw [List.filter_append, List.map_append]
    by_cases hplain : afterFront? contextMark k' = none
    · have hfilter : [(k', text')].filter (fun p => (afterFront? contextMark p.1).isNone) =
          [(k', text')] := by
        simp [hplain]
      rw [hfilter, List.map_singleton, Table.isLast_append_singleton, ih]
      simp only [Table.isLast_append_singleton, Prod.mk.injEq]
      by_cases hk : k' = k
      · subst hk
        simp [hplain, eq_comm]
      · simp [hk]
    · have hfilter : [(k', text')].filter (fun p => (afterFront? contextMark p.1).isNone) = [] := by
        simpa [Option.isNone_iff_eq_none] using hplain
      rw [hfilter, List.map_nil, List.append_nil, ih]
      simp only [Table.isLast_append_singleton, Prod.mk.injEq]
      by_cases hk : k' = k
      · subst hk
        simp [hplain]
      · simp [hk]

lemma plainVariables_eq_iff {r : IncomingRequest} {members : List (String × Json)} :
    r.plainVariables = .record members ↔
      (members.Pairwise fun a b => a.1 < b.1) ∧ ∀ k v, (k, v) ∈ members ↔
        afterFront? contextMark k = none ∧ ∃ text, v = .text text ∧
          Table.IsLast r.query k text := by
  rw [plainVariables, Json.object, Json.record.injEq]
  constructor
  · rintro rfl
    refine ⟨Table.ascending _, fun k v => ?_⟩
    rw [← Table.get?_eq_some_iff]
    exact get?_plain_iff
  · rintro ⟨hascending, hmembers⟩
    have htable : ∀ {t : Table Json},
        (∀ k, t.get? k = (⟨members, hascending⟩ : Table Json).get? k) →
        t.entries = members := fun h => congrArg Table.entries (Table.eq_of_get?_eq h)
    refine htable fun k => Option.ext fun v => ?_
    rw [get?_plain_iff, Table.get?_eq_some_iff, hmembers]

section Sources

variable {r : IncomingRequest} {kind : OperationKind}

/-- The first parameter for variables counts. -/
lemma variableValues_of_parameter {before after : List (String × String)} {text : String}
    (hquery : r.query = before ++ ("variables", text) :: after)
    (hbefore : ∀ p ∈ before, p.1 ≠ "variables") : r.variableValues .query = readVariables text := by
  have hfind : (r.query.find? fun p => p.1 = "variables") = some ("variables", text) := by
    refine List.find?_eq_some_iff_append.2 ⟨rfl, before, after, hquery, fun q hq => ?_⟩
    simpa using hbefore q hq
  rw [variableValues, variablesText]
  simp only [hfind]

/-- Without a parameter for variables the plain parameters are the variables. -/
lemma variableValues_of_plain (hnone : ∀ p ∈ r.query, p.1 ≠ "variables") :
    r.variableValues .query = .ok r.plainVariables := by
  have hfind : (r.query.find? fun p => p.1 = "variables") = none := by
    refine List.find?_eq_none.2 fun q hq => ?_
    simpa using hnone q hq
  rw [variableValues, variablesText]
  simp only [hfind]

lemma variableValues_of_body (hkind : kind ≠ .query) :
    r.variableValues kind = readVariables (r.body.getD "") := by
  cases kind with
  | query => exact absurd rfl hkind
  | mutation => rfl
  | subscription => rfl

/-- A query has a first parameter for variables or none. -/
lemma exists_parameter_or_plain (query : List (String × String)) :
    (∃ before text after, query = before ++ ("variables", text) :: after ∧ ∀ p ∈ before,
      p.1 ≠ "variables") ∨ ∀ p ∈ query, p.1 ≠ "variables" := by
  cases hfind : query.find? fun p => p.1 = "variables" with
  | some p =>
    obtain ⟨hp, before, after, hquery, hbefore⟩ := List.find?_eq_some_iff_append.1 hfind
    obtain ⟨name, text⟩ := p
    obtain rfl : name = "variables" := of_decide_eq_true hp
    exact .inl ⟨before, text, after, hquery, fun q hq => by simpa using hbefore q hq⟩
  | none => exact .inr fun q hq => by simpa using List.find?_eq_none.1 hfind q hq

/-- The variables of a request are those that it gives. -/
lemma variableValues_eq_ok_iff {v : Json} : r.variableValues kind = .ok v ↔ r.Gives kind v := by
  constructor
  · intro h
    by_cases hkind : kind = .query
    · subst hkind
      rcases exists_parameter_or_plain r.query with ⟨before, text, after, hquery, hbefore⟩ | hnone
      · rw [variableValues_of_parameter hquery hbefore] at h
        exact .parameter hquery hbefore (readVariables_eq_ok_iff.1 h)
      · rw [variableValues_of_plain hnone, Except.ok.injEq] at h
        subst h
        obtain ⟨members, hmembers⟩ : ∃ members, r.plainVariables = .record members := ⟨_, rfl⟩
        obtain ⟨hascending, hmem⟩ := plainVariables_eq_iff.1 hmembers
        rw [hmembers]
        exact .plain hnone hascending hmem
    · rw [variableValues_of_body hkind] at h
      exact .body hkind (readVariables_eq_ok_iff.1 h)
  · intro h
    cases h with
    | parameter hquery hbefore hstands =>
      rw [variableValues_of_parameter hquery hbefore]
      exact readVariables_eq_ok_iff.2 hstands
    | plain hnone hascending hmembers =>
      rw [variableValues_of_plain hnone, plainVariables_eq_iff.2 ⟨hascending, hmembers⟩]
    | body hkind hstands =>
      rw [variableValues_of_body hkind]
      exact readVariables_eq_ok_iff.2 hstands

end Sources

end IncomingRequest

namespace Gateway

/-! ## Routes -/

/-- Tells that a path is that of the endpoint of a query or a mutation, whose name is one
segment. -/
structure IsTarget (base path : String) (kind : OperationKind) (name : String) : Prop where
  path : path = endpointPath base kind name
  kind : kind = .query ∨ kind = .mutation
  name : '/' ∉ name.toList

/-- The path of an endpoint names its operation. -/
lemma target?_endpointPath {base route : String} (h : dropEndChar '/' base = dropEndChar '/' route)
    {kind : OperationKind} (hkind : kind ≠ .subscription) {name : String}
    (hname : '/' ∉ name.toList) :
    target? base (endpointPath route kind name) = some (kind, name) := by
  have hword : '/' ∉ kind.word.toList := by cases kind <;> decide
  have hsplit : splitAt '/' (kind.word ++ "/" ++ name) = [kind.word, name] :=
    splitAt_eq_pair_iff.2 ⟨rfl, hword, hname⟩
  have hpath : endpointPath route kind name =
      dropEndChar '/' base ++ ("/" ++ (kind.word ++ "/" ++ name)) := by
    rw [endpointPath, h]
    simp [String.append_assoc]
  rw [target?, hpath]
  simp [afterFront?_append, hsplit, hkind]

/-- A path names an operation just if it is the path of its endpoint. -/
lemma target?_eq_some_iff {base path name : String} {kind : OperationKind} :
    target? base path = some (kind, name) ↔ IsTarget base path kind name := by
  constructor
  · intro h
    simp only [target?, Option.bind_eq_bind, Option.bind_eq_some_iff] at h
    obtain ⟨rest, hrest, below, hbelow, h⟩ := h
    split at h
    next word name' hsplit =>
      obtain ⟨kind', hkind, h⟩ := Option.bind_eq_some_iff.1 h
      split at h
      next => cases h
      next hsubscription =>
        cases h
        have hfound : OperationKind.all.find? (fun k => k.word = word) = some kind := hkind
        have hword : kind.word = word := by simpa using List.find?_some hfound
        obtain ⟨hbelow', -, hname⟩ := splitAt_eq_pair_iff.1 hsplit
        refine ⟨?_, ?_, hname⟩
        · rw [afterFront?_eq_some_iff.1 hrest, afterFront?_eq_some_iff.1 hbelow,
            hbelow', ← hword, endpointPath]
          simp only [String.append_assoc]
          rfl
        · cases kind with
          | query => exact .inl rfl
          | mutation => exact .inr rfl
          | subscription => exact absurd rfl hsubscription
    next => cases h
  · rintro ⟨rfl, hkind, hname⟩
    refine target?_endpointPath rfl ?_ hname
    rcases hkind with rfl | rfl
    · decide
    · decide

/-- Tells what a request is routed to: the stored operation that its path names, if it has the
method of the kind, with the variables that it gives. -/
structure IsRouted (documents : StoredDocuments) (base : String) (r : IncomingRequest)
    (x : Routed) : Prop where
  target : IsTarget base r.path x.call.kind x.call.name
  method : r.method = methodOf x.call.kind
  stored : documents.get? x.call.kind x.call.name = some x.document
  given : r.Gives x.call.kind x.variableValues
  context : x.call.clientContext = r.clientContext
  request : x.call.request = r

/-- A request is routed just to what it is for. -/
theorem route_eq_ok_iff {documents : StoredDocuments} {base : String} {r : IncomingRequest}
    {x : Routed} : route documents base r = .ok x ↔ IsRouted documents base r x := by
  constructor
  · intro h
    rw [route] at h
    split at h
    next => cases h
    next kind name htarget =>
      split at h
      next => cases h
      next hmethod =>
        split at h
        next => cases h
        next document hstored =>
          split at h
          next => cases h
          next v hv =>
            cases h
            exact ⟨target?_eq_some_iff.1 htarget, not_not.1 hmethod, hstored,
              IncomingRequest.variableValues_eq_ok_iff.1 hv, rfl, rfl⟩
  · rintro ⟨htarget, hmethod, hstored, hvariables, hcontext, hrequest⟩
    obtain ⟨⟨kind, name, context, request⟩, document, v⟩ := x
    simp only at htarget hmethod hstored hvariables hcontext hrequest
    subst hcontext
    subst hrequest
    rw [route, target?_eq_some_iff.2 htarget]
    simp only [hmethod, ne_eq, not_true_eq_false, if_false, hstored,
      IncomingRequest.variableValues_eq_ok_iff.2 hvariables]

/-- A request is routed to one call at most. -/
lemma IsRouted.unique {documents : StoredDocuments} {base : String} {r : IncomingRequest}
    {x y : Routed} (hx : IsRouted documents base r x) (hy : IsRouted documents base r y) : x = y :=
  Except.ok.inj ((route_eq_ok_iff.2 hx).symm.trans (route_eq_ok_iff.2 hy))

section Refusals

variable {documents : StoredDocuments} {base : String} {r : IncomingRequest}
  {kind : OperationKind} {name : String}

/-- A request whose path names no operation is for nothing that is served. -/
lemma route_of_not_isTarget (h : ∀ kind name, ¬IsTarget base r.path kind name) :
    route documents base r = .error notFound := by
  have hnone : target? base r.path = none := by
    cases htarget : target? base r.path with
    | none => rfl
    | some p => exact absurd (target?_eq_some_iff.1 htarget) (h p.1 p.2)
  rw [route, hnone]

/-- A request for an operation has the method of the kind. -/
lemma route_of_method (h : IsTarget base r.path kind name) (hmethod : r.method ≠ methodOf kind) :
    route documents base r =
      .error (.error 405 ("Method " ++ r.method ++ " not allowed for " ++ kind.word ++
        " operations")) := by
  rw [route, target?_eq_some_iff.2 h]
  simp only [if_pos hmethod]

/-- A request is for an operation that is stored. -/
lemma route_of_not_stored (h : IsTarget base r.path kind name) (hmethod : r.method = methodOf kind)
    (hstored : documents.get? kind name = none) :
    route documents base r = .error (.error 404 ("Operation \"" ++ name ++ "\" not found")) := by
  rw [route, target?_eq_some_iff.2 h]
  simp only [hmethod, ne_eq, not_true_eq_false, if_false, hstored]

/-- A request for an operation gives variables. -/
lemma exists_route_of_not_gives (h : IsTarget base r.path kind name)
    (hmethod : r.method = methodOf kind) {document : String}
    (hstored : documents.get? kind name = some document) (hvariables : ∀ v, ¬r.Gives kind v) :
    ∃ message, route documents base r = .error (.error 400 message) := by
  obtain ⟨message, hmessage⟩ : ∃ message, r.variableValues kind = .error message := by
    cases hv : r.variableValues kind with
    | error message => exact ⟨message, rfl⟩
    | ok v => exact absurd (IncomingRequest.variableValues_eq_ok_iff.1 hv) (hvariables v)
  refine ⟨message, ?_⟩
  rw [route, target?_eq_some_iff.2 h]
  simp only [hmethod, ne_eq, not_true_eq_false, if_false, hstored, hmessage]

end Refusals

/-! ## What comes back -/

/-- Tells that a service answers a call: with an answer of success whose text is that of a body. -/
def Succeeds (came : Except Failure RawAnswer) (raw : RawAnswer) (body : Json) : Prop :=
  came = .ok raw ∧ raw.isSuccess ∧ Json.read? raw.body = some body

/-- Tells how a service fails a call: it gives no answer, an answer that is not one of success, or
one without a body. -/
inductive Fails : Except Failure RawAnswer → Failure → Prop where
  | unreached (e : Failure) : Fails (.error e) e
  | refused {raw : RawAnswer} : ¬raw.isSuccess → Fails (.ok raw) (.server (some raw.status))
  | unread {raw : RawAnswer} : raw.isSuccess → Json.read? raw.body = none → Fails (.ok raw) .json

variable {o : GatewayOptions Id} {call : GatewayCall} {came : Except Failure RawAnswer}

lemma bodyFrom_of_succeeds {raw : RawAnswer} {body : Json} (h : Succeeds came raw body) :
    bodyFrom came = .ok (raw, body) := by
  obtain ⟨rfl, hsuccess, hread⟩ := h
  rw [bodyFrom_ok, if_pos hsuccess, hread]
  rfl

lemma bodyFrom_of_fails {e : Failure} (h : Fails came e) : bodyFrom came = .error e := by
  cases h with
  | unreached => rfl
  | refused hnot => rw [bodyFrom_ok, if_neg hnot]
  | unread hsuccess hread =>
    rw [bodyFrom_ok, if_pos hsuccess, hread]
    rfl

/-- A service answers a call or fails it. -/
lemma exists_succeeds_or_fails (came : Except Failure RawAnswer) :
    (∃ raw body, Succeeds came raw body) ∨ ∃ e, Fails came e := by
  cases came with
  | error e => exact .inr ⟨e, .unreached e⟩
  | ok raw =>
    by_cases hsuccess : raw.isSuccess
    · cases hread : Json.read? raw.body with
      | none => exact .inr ⟨_, .unread hsuccess hread⟩
      | some body => exact .inl ⟨raw, body, rfl, hsuccess, hread⟩
    · exact .inr ⟨_, .refused hsuccess⟩

lemma answered_of_succeeds {raw : RawAnswer} {body : Json} (h : Succeeds came raw body) :
    answered o call came = .ok (reshaped o call raw body) := by
  rw [answered, bodyFrom_of_succeeds h]

lemma answered_of_fails {e : Failure} (h : Fails came e) :
    answered o call came = failed o call e := by
  rw [answered, bodyFrom_of_fails h]
  exact run_fail e

/-- A failure is no success, unless the hook for failures makes it one. -/
lemma status_failed_ne
    (hhook : ∀ e a, (o.hooks.error.bind fun hook => hook call e) = some a → a.status ≠ 200)
    (e : Failure) : (failed o call e).status ≠ 200 := by
  rw [failed]
  cases ha : o.hooks.error.bind fun hook => hook call e with
  | none => decide
  | some a => exact hhook e a ha

/-- Unless the hook for failures makes a failure a success, an answer is one of success just if the
service answers. -/
lemma status_answered_iff
    (hhook : ∀ e a, (o.hooks.error.bind fun hook => hook call e) = some a → a.status ≠ 200) :
    (answered o call came).status = 200 ↔ ∃ raw body, Succeeds came raw body := by
  rcases exists_succeeds_or_fails came with ⟨raw, body, h⟩ | ⟨e, h⟩
  · rw [answered_of_succeeds h]
    exact ⟨fun _ => ⟨raw, body, h⟩, fun _ => rfl⟩
  · rw [answered_of_fails h]
    refine ⟨fun hstatus => absurd hstatus (status_failed_ne hhook e), ?_⟩
    rintro ⟨raw, body, hsucceeds⟩
    cases (bodyFrom_of_fails h).symm.trans (bodyFrom_of_succeeds hsucceeds)

/-! ## Handling requests -/

section Handling

variable (g : Gateway Id) (upstream : OutgoingRequest → Except Failure RawAnswer)
  (r : IncomingRequest)

/-- What a gateway answers a request. -/
def answerTo : GatewayAnswer :=
  ((g.traced.handle (service upstream) r).run []).1

/-- What a gateway sends to the service for a request. -/
def sentFor : List OutgoingRequest :=
  ((g.traced.handle (service upstream) r).run []).2.filterMap Event.sent?

variable {g upstream r} {x : Routed}

/-- A request that is not routed is answered without the service. -/
lemma spec_of_route_error {answer : GatewayAnswer}
    (h : route g.documents g.options.route r = .error answer) :
    answerTo g upstream r = answer ∧ sentFor g upstream r = [] := by
  have htraced : route g.traced.documents g.traced.options.route r = .error answer := h
  rw [answerTo, sentFor, handle, htraced]
  exact ⟨rfl, rfl⟩

/-- What is routed to a service without an address is answered without the service. -/
lemma spec_of_fault (h : IsRouted g.documents g.options.route r x) {fault : UrlFault}
    (hfault : Url.read (serviceOf g.options x.call) = .error fault) :
    answerTo g upstream r = failed g.options x.call (.url fault) ∧ sentFor g upstream r = [] := by
  have houtgoing := run_outgoing_of_fault hfault
  obtain ⟨before, after, hasked, hrun⟩ := @exists_run_forward g.options x upstream []
  have htraced : route g.traced.documents g.traced.options.route r = .ok x := route_eq_ok_iff.2 h
  have hhandle : g.traced.handle (service upstream) r =
      forward g.options.traced (service upstream) x := by
    rw [handle, htraced]
    rfl
  have hsent : sentBy g.options x = [] := by
    rw [sentBy, houtgoing]
  have hanswer : (forward g.options (fun request => pure (upstream request)) x).run =
      failed g.options x.call (.url fault) := by
    simp only [forward, Id.run_bind, houtgoing]
    exact run_fail _
  rw [hsent, hanswer, List.append_nil, List.nil_append] at hrun
  rw [answerTo, sentFor, hhandle, hrun]
  exact ⟨rfl, Event.filterMap_sent?_of_asked hasked⟩

/-- For what is routed to a service one request is sent, and the answer is made of what comes
back. -/
lemma exists_sentFor (h : IsRouted g.documents g.options.route r x) {url : Url}
    (hurl : Url.read (serviceOf g.options x.call) = .ok url) :
    ∃ request, answerTo g upstream r = answered g.options x.call (upstream request) ∧
      sentFor g upstream r = [request] ∧ request.method = "POST" ∧
      request.body = some (bodyOf x) := by
  obtain ⟨request, events, hrun, hmethod, hbody, hsent, -⟩ :=
    exists_run_handle upstream (route_eq_ok_iff.2 h) hurl
  refine ⟨request, ?_, ?_, hmethod, hbody⟩
  · rw [answerTo, hrun]
  · rw [sentFor, hrun, hsent]

/-- Nothing is sent, or a request is routed to a service and one request is sent for it. -/
lemma cases_of_handle (g : Gateway Id) (upstream : OutgoingRequest → Except Failure RawAnswer)
    (r : IncomingRequest) :
    (sentFor g upstream r = [] ∧
      ∀ x, IsRouted g.documents g.options.route r x → ∃ fault,
        Url.read (serviceOf g.options x.call) = .error fault) ∨
    ∃ x url request, IsRouted g.documents g.options.route r x ∧
      Url.read (serviceOf g.options x.call) = .ok url ∧
      sentFor g upstream r = [request] ∧
      answerTo g upstream r = answered g.options x.call (upstream request) ∧
      request.method = "POST" ∧ request.body = some (bodyOf x) := by
  cases hroute : route g.documents g.options.route r with
  | error answer =>
    refine .inl ⟨(spec_of_route_error hroute).2, fun x hx => ?_⟩
    cases hroute.symm.trans (route_eq_ok_iff.2 hx)
  | ok x =>
    have hx := route_eq_ok_iff.1 hroute
    cases hread : Url.read (serviceOf g.options x.call) with
    | error fault =>
      refine .inl ⟨(spec_of_fault hx hread).2, fun y hy => ?_⟩
      exact ⟨fault, hx.unique hy ▸ hread⟩
    | ok url =>
      obtain ⟨request, hanswer, hsent, hmethod, hbody⟩ :=
        @exists_sentFor g upstream r x hx url hread
      exact .inr ⟨x, url, request, hx, hread, hsent, hanswer, hmethod, hbody⟩

end Handling

/-- What handling a request comes to: the answer, and the requests that are sent to the service. -/
structure IsHandled (g : Gateway Id) (upstream : OutgoingRequest → Except Failure RawAnswer)
    (r : IncomingRequest) (answer : GatewayAnswer) (sent : List OutgoingRequest) : Prop where
  /-- The service is called at most once. -/
  once : sent.length ≤ 1
  /-- It is called just if the request is routed to a service with an address. -/
  called : sent ≠ [] ↔ ∃ x url, IsRouted g.documents g.options.route r x ∧
    Url.read (serviceOf g.options x.call) = .ok url
  /-- It is sent the document, the variables and the name of the operation. -/
  posted {request : OutgoingRequest} :
    request ∈ sent → ∃ x, IsRouted g.documents g.options.route r x ∧
    request.method = "POST" ∧ request.body = some (.object
      [("query", .text x.document), ("variables", x.variableValues),
        ("operationName", .text x.call.name)])
  /-- A path that names no operation is refused first. -/
  notFound : (∀ kind name, ¬IsTarget g.options.route r.path kind name) →
    answer = .error 404 "Not Found"
  /-- Then a method that is not that of the kind. -/
  notAllowed {kind : OperationKind} {name : String} : IsTarget g.options.route r.path kind name →
    r.method ≠ methodOf kind →
      answer = .error 405
        ("Method " ++ r.method ++ " not allowed for " ++ kind.word ++ " operations")
  /-- Then an operation that is not stored. -/
  notStored {kind : OperationKind} {name : String} : IsTarget g.options.route r.path kind name →
    r.method = methodOf kind → g.documents.get? kind name = none →
      answer = .error 404 ("Operation \"" ++ name ++ "\" not found")
  /-- Then variables that cannot be read. -/
  notGiven {kind : OperationKind} {name document : String} :
    IsTarget g.options.route r.path kind name →
    r.method = methodOf kind → g.documents.get? kind name = some document → (∀ v, ¬r.Gives kind v) →
      ∃ message, answer = .error 400 message
  /-- A request that is routed to a service without an address fails. -/
  unsent {x : Routed} {fault : UrlFault} : IsRouted g.documents g.options.route r x →
    Url.read (serviceOf g.options x.call) = .error fault →
    answer = failed g.options x.call (.url fault)
  /-- The answer of a service is given back. -/
  answered {x : Routed} {request : OutgoingRequest} {raw : RawAnswer} {body : Json} :
    IsRouted g.documents g.options.route r x → request ∈ sent →
      Succeeds (upstream request) raw body → answer = .ok (reshaped g.options x.call raw body)
  /-- Every other outcome is a failure. -/
  refused {x : Routed} {request : OutgoingRequest} {e : Failure} :
    IsRouted g.documents g.options.route r x → request ∈ sent → Fails (upstream request) e →
      answer = failed g.options x.call e
  /-- Unless the hook for failures answers one with success, an answer to a routed request is one of
  success just if the service answers. -/
  success {x : Routed} : IsRouted g.documents g.options.route r x →
    (∀ e a, (g.options.hooks.error.bind fun hook => hook x.call e) = some a → a.status ≠ 200) →
      (answer.status = 200 ↔ ∃ request ∈ sent, ∃ raw body, Succeeds (upstream request) raw body)

/-- What a gateway answers and sends is what handling a request comes to. -/
theorem isHandled (g : Gateway Id) (upstream : OutgoingRequest → Except Failure RawAnswer)
    (r : IncomingRequest) :
    IsHandled g upstream r (answerTo g upstream r) (sentFor g upstream r) := by
  have hrefused : ∀ {answer}, route g.documents g.options.route r = .error answer →
      answerTo g upstream r = answer :=
    fun h => (spec_of_route_error h).1
  have hcases := cases_of_handle g upstream r
  have hanswered : ∀ {x request}, IsRouted g.documents g.options.route r x →
      request ∈ sentFor g upstream r →
      answerTo g upstream r = answered g.options x.call (upstream request) := by
    intro x request hx hrequest
    rcases hcases with ⟨hsent, -⟩ | ⟨y, url, sent, hy, -, hsent, hanswer, -⟩
    · rw [hsent] at hrequest
      cases hrequest
    · rw [hsent, List.mem_singleton] at hrequest
      rw [hanswer, hx.unique hy, hrequest]
  exact {
    once := by
      rcases hcases with ⟨hsent, -⟩ | ⟨x, url, request, -, -, hsent, -⟩
      · simp [hsent]
      · simp [hsent]
    called := by
      rcases hcases with ⟨hsent, hfault⟩ | ⟨x, url, request, hx, hurl, hsent, -⟩
      · refine ⟨fun h => absurd hsent h, ?_⟩
        rintro ⟨x, url, hx, hurl⟩
        obtain ⟨fault, hread⟩ := hfault x hx
        cases hread.symm.trans hurl
      · exact ⟨fun _ => ⟨x, url, hx, hurl⟩, fun _ => by simp [hsent]⟩
    posted := by
      intro request hrequest
      rcases hcases with ⟨hsent, -⟩ | ⟨x, url, sent, hx, -, hsent, -, hmethod, hbody⟩
      · rw [hsent] at hrequest
        cases hrequest
      · rw [hsent, List.mem_singleton] at hrequest
        exact ⟨x, hx, hrequest ▸ hmethod, hrequest ▸ hbody⟩
    notFound := fun h => hrefused (route_of_not_isTarget h)
    notAllowed := fun h hmethod => hrefused (route_of_method h hmethod)
    notStored := fun h hmethod hstored => hrefused (route_of_not_stored h hmethod hstored)
    notGiven := by
      intro kind name document h hmethod hstored hgiven
      obtain ⟨message, hroute⟩ := exists_route_of_not_gives h hmethod hstored hgiven
      exact ⟨message, hrefused hroute⟩
    unsent := fun hx hfault => (spec_of_fault hx hfault).1
    answered := fun hx hrequest h => (hanswered hx hrequest).trans (answered_of_succeeds h)
    refused := fun hx hrequest h => (hanswered hx hrequest).trans (answered_of_fails h)
    success := by
      intro x hx hhook
      rcases hcases with ⟨hsent, hfault⟩ | ⟨y, url, request, hy, -, hsent, hanswer, -⟩
      · obtain ⟨fault, hread⟩ := hfault x hx
        rw [(spec_of_fault hx hread).1, hsent]
        simp [status_failed_ne hhook]
      · rw [hanswer, hsent, ← hx.unique hy, status_answered_iff hhook]
        simp }

/-! ## Failures that are made a success -/

/-- A gateway for one query whose hook for failures answers every failure with success. -/
def forgivingGateway : Gateway Id where
  documents := StoredDocuments.empty.insert .query "x" "query x \x7b a \x7d"
  options := ⟨"https://api.example.com/graphql", defaultRoute, .empty,
    { Hooks.none with error := some fun call _ => some (.error 200 (call.name ++ " down")) }⟩

/-- A request for the query. -/
def plainRequest : IncomingRequest where
  method := "GET"
  path := "/api/graphql_middleware/query/x"
  query := []
  headers := .empty
  body := none

/-- What the request is routed to. -/
def plainRouted : Routed where
  call := ⟨.query, "x", plainRequest.clientContext, plainRequest⟩
  document := "query x \x7b a \x7d"
  variableValues := .record []

lemma isRouted_plainRequest :
    IsRouted forgivingGateway.documents forgivingGateway.options.route plainRequest
      plainRouted where
  target := ⟨by decide, .inl rfl, by decide⟩
  method := rfl
  stored := by decide
  given := .plain (by simp [plainRequest]) .nil (by simp [plainRequest, Table.IsLast])
  context := rfl
  request := rfl

/-- A service that refuses every request. -/
def refusal : OutgoingRequest → Except Failure RawAnswer :=
  fun _ => .ok ⟨500, .empty, "\x7b\x7d"⟩

lemma fails_refusal (request : OutgoingRequest) : Fails (refusal request) (.server (some 500)) :=
  .refused (by decide)

/-- That the answer to a routed request is one of success does not say that the service answers: the
hook for failures may answer a failure so. -/
theorem status_of_forgiving :
    IsRouted forgivingGateway.documents forgivingGateway.options.route plainRequest plainRouted ∧
      (answerTo forgivingGateway refusal plainRequest).status = 200 ∧
      ∀ request, ¬∃ raw body, Succeeds (refusal request) raw body := by
  refine ⟨isRouted_plainRequest, ?_, ?_⟩
  · rcases cases_of_handle forgivingGateway refusal plainRequest with
      ⟨-, hfault⟩ | ⟨x, url, request, hx, -, -, hanswer, -⟩
    · obtain ⟨fault, hread⟩ := hfault plainRouted isRouted_plainRequest
      rw [(spec_of_fault isRouted_plainRequest hread).1]
      rfl
    · rw [hanswer, answered_of_fails (fails_refusal request)]
      rfl
  · rintro request ⟨raw, body, hsucceeds⟩
    cases (bodyFrom_of_fails (fails_refusal request)).symm.trans (bodyFrom_of_succeeds hsucceeds)

end Gateway

end OperationGate
