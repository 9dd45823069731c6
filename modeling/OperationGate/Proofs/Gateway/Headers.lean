import Mathlib
import OperationGate.Proofs.Gateway.Exchange

/-!
# Layers of headers

The headers of a request are put together in layers: those that a gateway is configured with, those
of the settings of the transport, and those that the host of the gateway builds. Every layer is set
one header after another, so of several values that it gives one name only the last counts, and it
replaces all values of the layers below (`Headers.values_setEach_pairs`). `Gateway.values_of_layers`
says which values are sent. A name keeps all values that a layer gives it just if there is no more
than one (`Headers.layered_last_eq_iff`): see `Gateway.exists_value_lost`.
-/

namespace OperationGate

namespace Headers

/-- The values of one layer over those of another: they count if there are any. -/
def layered (upper lower : List String) : List String :=
  if upper = [] then lower else upper

/-- The last of several values, if there is one. -/
def last (values : List String) : List String :=
  values.getLast?.toList

/-- The last of several values is all of them just if there is no more than one. -/
lemma last_eq_self_iff {values : List String} : last values = values ↔ values.length ≤ 1 := by
  constructor
  · intro h
    rw [← h, last]
    cases values.getLast? <;> simp
  · intro h
    rcases List.eq_nil_or_concat values with rfl | ⟨vs, v, rfl⟩
    · rfl
    · have hvs : vs = [] := by simpa using h
      rw [hvs]
      rfl

/-- With only its last value a layer counts as with all just if it has no more than one. -/
theorem layered_last_eq_iff {upper lower : List String} :
    layered (last upper) lower = layered upper lower ↔ upper.length ≤ 1 := by
  rw [← last_eq_self_iff]
  rcases List.eq_nil_or_concat upper with rfl | ⟨vs, v, rfl⟩
  · exact ⟨fun _ => rfl, fun _ => rfl⟩
  · simp [layered, last]

/-- Setting one header after another leaves a name with the last value that it is given. -/
lemma values_setEach (h : Headers) (ps : List (String × String)) (name : String) :
    (h.setEach ps).values name =
    layered (last ((ps.filter fun p => p.1 = name).map (·.2))) (h.values name) := by
  induction ps using List.reverseRecOn with
  | nil => rfl
  | append_singleton ps p ih =>
    have hstep : h.setEach (ps ++ [p]) = (h.setEach ps).set p.1 p.2 := by
      rw [setEach, List.foldl_append]
      rfl
    rw [hstep, values_set, ih, List.filter_append]
    by_cases hname : p.1 = name
    · simp [hname, last, layered]
    · simp [hname]

/-- The pairs of a name hold its values. -/
lemma map_filter_pairs (h : Headers) (name : String) :
    (h.pairs.filter fun p => p.1 = name).map (·.2) = h.values name := by
  obtain ⟨⟨es, hes⟩⟩ := h
  rw [pairs, values, Table.get?]
  dsimp only
  induction es with
  | nil => rfl
  | cons e rest ih =>
    rw [List.pairwise_cons] at hes
    rw [List.flatMap_cons, List.filter_append, List.map_append, ih hes.2, Table.find?]
    by_cases hname : e.1 = name
    · have hnone : Table.find? name rest = none := by
        by_contra h
        obtain ⟨vs, hvs⟩ := Option.ne_none_iff_exists'.1 h
        exact String.lt_irrefl name (hname ▸ hes.1 (name, vs) (Table.mem_of_find?_eq_some hvs))
      rw [hnone, if_pos hname]
      simp [hname, List.filter_map, Function.comp_def]
    · rw [if_neg hname]
      simp [hname, List.filter_map, Function.comp_def]

/-- Other headers that are set over some leave a name with their last value, or with those that it
had. -/
theorem values_setEach_pairs (h other : Headers) (name : String) :
    (h.setEach other.pairs).values name = layered (last (other.values name)) (h.values name) := by
  rw [values_setEach, map_filter_pairs]

end Headers

namespace Gateway

open Headers

/-- The settings of the transport for a call. -/
def settingsOf (o : GatewayOptions Id) (call : GatewayCall) : TransportOptions :=
  (o.hooks.transport.map fun hook => hook call).getD .none

/-- The headers that the host of the gateway builds for a call. -/
def builtFor (o : GatewayOptions Id) (call : GatewayCall) : Headers :=
  (o.hooks.headers.map fun hook => hook call).getD .empty

lemma run_ask_transport (o : GatewayOptions Id) (call : GatewayCall) :
    (ask (m := Id) (o.hooks.transport.map fun hook => hook call) .none).run =
    settingsOf o call := by
  rw [settingsOf]
  cases o.hooks.transport <;> rfl

lemma run_ask_headers (o : GatewayOptions Id) (call : GatewayCall) :
    (ask (m := Id) (o.hooks.headers.map fun hook => hook call) .empty).run = builtFor o call := by
  rw [builtFor]
  cases o.hooks.headers <;> rfl

/-- The headers that are sent for an operation are put together in three layers. -/
lemma headers_of_outgoing {o : GatewayOptions Id} {x : Routed} {request : OutgoingRequest}
    (h : (outgoing o x).run = .ok request) :
    request.headers = (o.headers.setEach (settingsOf o x.call).headers.pairs).setEach
      (builtFor o x.call).pairs := by
  cases hread : Url.read (serviceOf o x.call) with
  | error fault =>
    rw [run_outgoing_of_fault hread] at h
    cases h
  | ok url =>
    simp only [outgoing, Id.run_bind, run_ask_resolver, hread, run_ask_transport,
      run_ask_headers] at h
    cases h
    rfl

/-- What is sent for a request is the request of the operation that it is routed to. -/
lemma exists_outgoing_of_mem_sentFor {g : Gateway Id}
    {upstream : OutgoingRequest → Except Failure RawAnswer} {incoming : IncomingRequest}
    {request : OutgoingRequest} (h : request ∈ sentFor g upstream incoming) :
    ∃ x, IsRouted g.documents g.options.route incoming x ∧
      (outgoing g.options x).run = .ok request := by
  cases hroute : route g.documents g.options.route incoming with
  | error answer =>
    rw [(spec_of_route_error hroute).2] at h
    cases h
  | ok x =>
    refine ⟨x, route_eq_ok_iff.1 hroute, ?_⟩
    obtain ⟨before, after, hasked, hrun⟩ := @exists_run_forward g.options x upstream []
    have htraced : route g.traced.documents g.traced.options.route incoming = .ok x := hroute
    have hhandle : g.traced.handle (service upstream) incoming =
        forward g.options.traced (service upstream) x := by
      rw [handle, htraced]
      rfl
    have hbefore := Event.filterMap_sent?_of_asked fun e he =>
      hasked e (List.mem_append_left after he)
    have hafter := Event.filterMap_sent?_of_asked fun e he =>
      hasked e (List.mem_append_right before he)
    rw [sentFor, hhandle, hrun] at h
    simp only [List.filterMap_append, hbefore, hafter, List.nil_append, List.append_nil] at h
    rw [sentBy] at h
    cases houtgoing : (outgoing g.options x).run with
    | error e =>
      rw [houtgoing] at h
      cases h
    | ok sent =>
      rw [houtgoing] at h
      obtain rfl : request = sent := by simpa [Event.sent?] using h
      rfl

/-- The values of a name in what a gateway sends. -/
lemma values_of_mem_sentFor {g : Gateway Id} {upstream : OutgoingRequest → Except Failure RawAnswer}
    {incoming : IncomingRequest} {request : OutgoingRequest}
    (h : request ∈ sentFor g upstream incoming) :
    ∃ x, IsRouted g.documents g.options.route incoming x ∧ ∀ name, request.headers.values name =
      layered (last ((builtFor g.options x.call).values name))
        (layered (last ((settingsOf g.options x.call).headers.values name))
          (g.options.headers.values name)) := by
  obtain ⟨x, hx, houtgoing⟩ := exists_outgoing_of_mem_sentFor h
  refine ⟨x, hx, fun name => ?_⟩
  rw [headers_of_outgoing houtgoing, values_setEach_pairs, values_setEach_pairs]

/-- Which values a name has when headers are put together in layers. Settings of the transport that
are applied to a request leave a name with the last of their values, or with those that it had; that
is all of their values just if there is no more than one. What a gateway sends has the last of the
values that its host builds, or else the last of those of the settings, or else all that are
configured. -/
theorem values_of_layers (g : Gateway Id) (upstream : OutgoingRequest → Except Failure RawAnswer)
    (incoming : IncomingRequest) :
    (∀ (settings : TransportOptions) (request : OutgoingRequest) (name : String),
      (settings.apply request).headers.values name =
          layered (last (settings.headers.values name)) (request.headers.values name) ∧
        ((settings.apply request).headers.values name =
            layered (settings.headers.values name) (request.headers.values name) ↔
          (settings.headers.values name).length ≤ 1)) ∧
    ∀ request ∈ sentFor g upstream incoming, ∃ x, IsRouted g.documents g.options.route incoming x ∧
      ∀ name, request.headers.values name =
        layered (last ((builtFor g.options x.call).values name))
          (layered (last ((settingsOf g.options x.call).headers.values name))
            (g.options.headers.values name)) := by
  refine ⟨fun settings request name => ?_, fun _ h => values_of_mem_sentFor h⟩
  have happly : (settings.apply request).headers.values name =
      layered (last (settings.headers.values name)) (request.headers.values name) :=
      values_setEach_pairs _ _ _
  exact ⟨happly, happly ▸ layered_last_eq_iff⟩

/-- A gateway whose host builds some headers over two other layers. -/
def layeredGateway (built : Headers) : Gateway Id where
  documents := forgivingGateway.documents
  options := ⟨"https://a", defaultRoute, .ofPairs [("x", "1"), ("x", "2"), ("y", "1"), ("z", "1")],
    { Hooks.none with
      transport := some fun _ =>
      { TransportOptions.none with headers := .ofPairs [("y", "2"), ("z", "2")] }
      headers := some fun _ => built }⟩

lemma exists_mem_sentFor_layeredGateway (built : Headers) :
    ∃ request, request ∈ sentFor (layeredGateway built) refusal plainRequest := by
  obtain ⟨request, -, hsent, -⟩ :=
    @exists_sentFor (layeredGateway built) refusal plainRequest plainRouted
    isRouted_plainRequest _ Client.read_sampleOrigin
  exact ⟨request, hsent ▸ List.mem_singleton.2 rfl⟩

/-- Each name has the values of the highest layer that has it. -/
theorem values_of_layers_sample :
    ∃ request ∈ sentFor (layeredGateway (.ofPairs [("z", "3")])) refusal plainRequest,
      request.headers.values "x" = ["1", "2"] ∧ request.headers.values "y" = ["2"] ∧
        request.headers.values "z" = ["3"] := by
  obtain ⟨request, hmem⟩ := exists_mem_sentFor_layeredGateway (.ofPairs [("z", "3")])
  obtain ⟨x, -, hvalues⟩ :=
    (values_of_layers (layeredGateway (.ofPairs [("z", "3")])) refusal plainRequest).2 request hmem
  exact ⟨request, hmem, (hvalues "x").trans rfl, (hvalues "y").trans rfl, (hvalues "z").trans rfl⟩

/-- Headers with two values of one name. -/
def doubledHeaders : Headers :=
  .ofPairs [("x", "1"), ("x", "2")]

/-- Of two values that settings of the transport give one name, the first is lost, and so it is of
two values that the host of a gateway builds. -/
theorem exists_value_lost :
    doubledHeaders.values "x" = ["1", "2"] ∧
    (({ TransportOptions.none with headers := doubledHeaders }).apply
      (.new "GET" Client.sampleOrigin)).headers.values "x" = ["2"] ∧
    ∃ request ∈ sentFor (layeredGateway doubledHeaders) refusal plainRequest,
      request.headers.values "x" = ["2"] := by
  obtain ⟨request, hmem⟩ := exists_mem_sentFor_layeredGateway doubledHeaders
  obtain ⟨x, -, hvalues⟩ := values_of_mem_sentFor hmem
  exact ⟨rfl, rfl, request, hmem, (hvalues "x").trans rfl⟩

end Gateway

end OperationGate
