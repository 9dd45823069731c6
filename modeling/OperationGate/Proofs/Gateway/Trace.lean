import OperationGate.Gateway.Basic
import OperationGate.Proofs.Text.Parts

/-!
# What a gateway does during a call

A gateway whose hooks do nothing but answer is run with a record of what happens: which hooks are
asked with which call, and which requests are sent. The record changes no answer, hooks are only
asked with the call that is handled, and one request is sent, unless there is none to send:
`exists_run_forward`.
-/

namespace OperationGate

/-- What happens while a gateway handles a call. -/
inductive Event where
  /-- A hook is asked with a call. -/
  | asked (call : GatewayCall)
  /-- A request is sent to the service. -/
  | sent (request : OutgoingRequest)

namespace Event

/-- The request that is sent, if one is. -/
def sent? : Event → Option OutgoingRequest
  | asked _ => none
  | sent request => some request

/-- Nothing is sent where hooks are only asked. -/
lemma filterMap_sent?_of_asked {call : GatewayCall} {events : List Event}
    (h : ∀ e ∈ events, e = asked call) : events.filterMap sent? = [] := by
  refine List.filterMap_eq_nil_iff.2 fun e he => ?_
  rw [h e he]
  rfl

end Event

/-- Steps with a record of what happens. -/
abbrev Traced := StateM (List Event)

namespace Traced

/-- Records that something happens, and goes on with an answer. -/
def note {α : Type} (e : Event) (answer : α) : Traced α :=
  fun events => (answer, events ++ [e])

@[simp]
lemma run_note {α : Type} (e : Event) (answer : α) (events : List Event) :
    (note e answer).run events = (answer, events ++ [e]) := rfl

/-- Steps during which nothing happens but that hooks are asked with a call. -/
def OnlyAsks {α : Type} (call : GatewayCall) (x : Traced α) (answer : α) : Prop :=
  ∀ events, ∃ new, (∀ e ∈ new, e = Event.asked call) ∧ x.run events = (answer, events ++ new)

variable {α β : Type} {call : GatewayCall}

lemma OnlyAsks.pure (answer : α) : OnlyAsks call (Pure.pure answer) answer := fun events =>
  ⟨[], by simp, by rw [List.append_nil]; rfl⟩

lemma OnlyAsks.note (answer : α) : OnlyAsks call (note (.asked call) answer) answer := fun events =>
  ⟨[.asked call], by simp, rfl⟩

lemma OnlyAsks.bind {x : Traced α} {f : α → Traced β} {a : α} {b : β} (hx : OnlyAsks call x a)
    (hf : OnlyAsks call (f a) b) : OnlyAsks call (x >>= f) b := by
  intro events
  obtain ⟨new, hnew, hrun⟩ := hx events
  obtain ⟨more, hmore, hrun'⟩ := hf (events ++ new)
  refine ⟨new ++ more, fun e he => (List.mem_append.1 he).elim (hnew e) (hmore e), ?_⟩
  rw [StateT.run_bind, hrun, ← List.append_assoc, ← hrun']
  rfl

end Traced

open Traced

/-- Hooks that record that they are asked. -/
def Hooks.traced (h : Hooks Id) : Hooks Traced where
  resolver := h.resolver.map fun hook call => note (.asked call) (hook call)
  transport := h.transport.map fun hook call => note (.asked call) (hook call)
  headers := h.headers.map fun hook call => note (.asked call) (hook call)
  response := h.response.map fun hook call raw body => note (.asked call) (hook call raw body)
  error := h.error.map fun hook call e => note (.asked call) (hook call e)

/-- Settings whose hooks record that they are asked. -/
def GatewayOptions.traced (o : GatewayOptions Id) : GatewayOptions Traced :=
  ⟨o.endpoint, o.route, o.headers, o.hooks.traced⟩

namespace Gateway

/-- A gateway whose hooks record that they are asked. -/
def traced (g : Gateway Id) : Gateway Traced :=
  ⟨g.documents, g.options.traced⟩

/-- A service that records what is sent to it. -/
def service (upstream : OutgoingRequest → Except Failure RawAnswer) (request : OutgoingRequest) :
    Traced (Except Failure RawAnswer) :=
  note (.sent request) (upstream request)

/-- The request of a call, if there is one. -/
def sentBy (o : GatewayOptions Id) (r : Routed) : List Event :=
  match (outgoing o r).run with
  | .ok request => [.sent request]
  | .error _ => []

variable {call : GatewayCall} {o : GatewayOptions Id} {r : Routed}

/-- Asking a hook that records it, or taking what counts without it. -/
lemma onlyAsks_ask {α β : Type} (hook : Option β) (answer : β → α) (default : α) :
    OnlyAsks call (ask (hook.map fun h => note (.asked call) (answer h)) default)
      (ask (m := Id) (hook.map answer) default).run := by
  cases hook with
  | none => exact .pure default
  | some h => exact .note (answer h)

lemma onlyAsks_outgoing : OnlyAsks r.call (outgoing o.traced r) (outgoing o r).run := by
  have hresolver := @onlyAsks_ask r.call _ _ o.hooks.resolver (fun hook => hook r.call) o.endpoint
  have htransport := @onlyAsks_ask r.call _ _ o.hooks.transport
    (fun hook => hook r.call) TransportOptions.none
  have hheaders := @onlyAsks_ask r.call _ _ o.hooks.headers (fun hook => hook r.call) Headers.empty
  simp only [outgoing, GatewayOptions.traced, Hooks.traced, Option.map_map, Function.comp_def]
  refine hresolver.bind ?_
  simp only [Id.run_bind]
  split
  next fault h =>
    rw [h]
    exact .pure _
  next url h =>
    rw [h]
    exact htransport.bind (hheaders.bind (.pure _))

/-- Handling a failure asks the hook for it. -/
lemma onlyAsks_fail (e : Failure) : OnlyAsks call (fail o.traced call e) (fail o call e).run := by
  have herror := @onlyAsks_ask call _ _ o.hooks.error (fun hook => hook call e) none
  simp only [fail, GatewayOptions.traced, Hooks.traced, Option.map_map, Function.comp_def]
  exact herror.bind (.pure _)

/-- Answering with what came back asks the hooks for it. -/
lemma onlyAsks_answer (came : Except Failure RawAnswer) :
    OnlyAsks r.call
      (match bodyFrom came with
      | .error e => fail o.traced r.call e
      | .ok (raw, body) => do
        return .ok (← ask (o.traced.hooks.response.map fun hook => hook r.call raw body) body))
      (match bodyFrom came with
      | .error e => (fail o r.call e).run
      | .ok (raw, body) =>
        .ok (ask (m := Id) (o.hooks.response.map fun hook => hook r.call raw body) body).run) := by
  cases bodyFrom came with
  | error e => exact onlyAsks_fail e
  | ok p =>
    obtain ⟨raw, body⟩ := p
    have hresponse := @onlyAsks_ask r.call _ _ o.hooks.response
      (fun hook => hook r.call raw body) body
    simp only [GatewayOptions.traced, Hooks.traced, Option.map_map, Function.comp_def]
    exact hresponse.bind (.pure _)

/-- What a call comes to with its record: hooks are asked with the call only, and the request of the
call is sent, if there is one. The answer is the one that comes without a record. -/
theorem exists_run_forward (upstream : OutgoingRequest → Except Failure RawAnswer)
    (events : List Event) :
    ∃ before after, (∀ e ∈ before ++ after, e = Event.asked r.call) ∧
      (forward o.traced (service upstream) r).run events =
        ((forward o (fun request => pure (upstream request)) r).run,
          events ++ before ++ sentBy o r ++ after) := by
  obtain ⟨before, hbefore, hrun⟩ := @onlyAsks_outgoing o r events
  have hall : ∀ {after : List Event}, (∀ e ∈ after, e = Event.asked r.call) →
      ∀ e ∈ before ++ after, e = Event.asked r.call := fun hafter e he =>
    (List.mem_append.1 he).elim (hbefore e) (hafter e)
  simp only [forward, StateT.run_bind, hrun, sentBy, Id.run_bind]
  cases (outgoing o r).run with
  | error e =>
    obtain ⟨after, hafter, hrun⟩ := @onlyAsks_fail r.call o e (events ++ before)
    refine ⟨before, after, hall hafter, ?_⟩
    rw [List.append_nil]
    exact hrun
  | ok request =>
    obtain ⟨after, hafter, hrun⟩ :=
      @onlyAsks_answer o r (upstream request) (events ++ before ++ [.sent request])
    exact ⟨before, after, hall hafter, hrun⟩

/-- The text of the address that an operation is sent to. -/
def serviceOf (o : GatewayOptions Id) (call : GatewayCall) : String :=
  (o.hooks.resolver.map fun hook => hook call).getD o.endpoint

lemma run_ask_resolver (o : GatewayOptions Id) (call : GatewayCall) :
    (ask (m := Id) (o.hooks.resolver.map fun hook => hook call) o.endpoint).run =
    serviceOf o call := by
  rw [serviceOf]
  cases o.hooks.resolver <;> rfl

/-- What is sent for an operation, if its address is one: the document with the variables and the
name. -/
lemma exists_outgoing {url : Url} (h : Url.read (serviceOf o r.call) = .ok url) :
    ∃ request, (outgoing o r).run = .ok request ∧ request.method = "POST" ∧
      request.body = some (bodyOf r) := by
  simp only [outgoing, Id.run_bind, run_ask_resolver, h]
  exact ⟨_, rfl, rfl, rfl⟩

/-- Nothing is sent for an operation without an address. -/
lemma run_outgoing_of_fault {fault : UrlFault} (h : Url.read (serviceOf o r.call) = .error fault) :
    (outgoing o r).run = .error (.url fault) := by
  simp only [outgoing, Id.run_bind, run_ask_resolver, h]
  rfl

/-! ## Handling a request -/

/-- The body that a gateway answers with, where the hook for bodies may have changed it. -/
def reshaped (o : GatewayOptions Id) (call : GatewayCall) (raw : RawAnswer) (body : Json) : Json :=
  (o.hooks.response.map fun hook => hook call raw body).getD body

/-- The answer once a service has answered. -/
def answered (o : GatewayOptions Id) (call : GatewayCall) (came : Except Failure RawAnswer) :
    GatewayAnswer :=
  match bodyFrom came with
  | .error e => (fail o call e).run
  | .ok (raw, body) => .ok (reshaped o call raw body)

/-- The answer to a call that failed: that of the hook for failures if it has one, and otherwise a
fault of the gateway. -/
def failed (o : GatewayOptions Id) (call : GatewayCall) (e : Failure) : GatewayAnswer :=
  (o.hooks.error.bind fun hook => hook call e).getD (.error 500 Failure.serverMessage)

lemma run_fail {call : GatewayCall} {o : GatewayOptions Id} (e : Failure) :
    (fail o call e).run = failed o call e := by
  simp only [fail, failed, Id.run_bind]
  cases o.hooks.error <;> rfl

/-- A call that fails, and that no hook answers, is a fault of the gateway. -/
lemma failed_of_unanswered {call : GatewayCall} {o : GatewayOptions Id} {e : Failure}
    (h : ∀ hook ∈ o.hooks.error, hook call e = none) :
    failed o call e = .error 500 Failure.serverMessage := by
  have hnone : (o.hooks.error.bind fun hook => hook call e) = none :=
    Option.bind_eq_none_iff.2 h
  rw [failed, hnone, Option.getD_none]

lemma bodyFrom_ok (raw : RawAnswer) :
    bodyFrom (.ok raw) =
      if raw.isSuccess then (Json.read? raw.body).elim (.error .json) fun body => .ok (raw, body)
      else .error (.server (some raw.status)) := by
  simp only [bodyFrom, bind, Except.bind]
  cases raw.isSuccess with
  | false => rfl
  | true => cases Json.read? raw.body <;> rfl

/-- The body of an answer is what its text stands for. -/
lemma read?_of_bodyFrom {came : Except Failure RawAnswer} {raw : RawAnswer} {body : Json}
    (h : bodyFrom came = .ok (raw, body)) : Json.read? raw.body = some body := by
  cases came with
  | error e => cases h
  | ok a =>
    rw [bodyFrom_ok] at h
    split at h
    next =>
      cases hread : Json.read? a.body with
      | none =>
        rw [hread] at h
        cases h
      | some read =>
        rw [hread] at h
        cases h
        exact hread
    next => cases h

lemma run_forward {upstream : OutgoingRequest → Except Failure RawAnswer}
    {request : OutgoingRequest} (h : (outgoing o r).run = .ok request) :
    (forward o (fun request => pure (upstream request)) r).run =
    answered o r.call (upstream request) := by
  simp only [forward, Id.run_bind, h, Id.run_pure, answered]
  cases bodyFrom (upstream request) with
  | error e => rfl
  | ok p =>
    simp only [reshaped]
    cases o.hooks.response <;> rfl

/-- What handling a request for an operation comes to: one request is sent, and hooks are asked
about the call only. -/
lemma exists_run_handle {g : Gateway Id} (upstream : OutgoingRequest → Except Failure RawAnswer)
    {incoming : IncomingRequest} (hroute : route g.documents g.options.route incoming = .ok r)
    {url : Url} (hservice : Url.read (serviceOf g.options r.call) = .ok url) :
    ∃ request events,
      (g.traced.handle (service upstream) incoming).run [] =
        (answered g.options r.call (upstream request), events) ∧
      request.method = "POST" ∧ request.body = some (bodyOf r) ∧
      events.filterMap Event.sent? = [request] ∧ ∀ call, Event.asked call ∈ events →
        call = r.call := by
  obtain ⟨request, houtgoing, hmethod, hbody⟩ := exists_outgoing hservice
  obtain ⟨before, after, hasked, hrun⟩ := @exists_run_forward g.options r upstream []
  have hsent : sentBy g.options r = [.sent request] := by
    rw [sentBy, houtgoing]
  refine ⟨request, before ++ [.sent request] ++ after, ?_, hmethod, hbody, ?_, ?_⟩
  · have htraced : route g.traced.documents g.traced.options.route incoming = .ok r := hroute
    rw [hsent, run_forward houtgoing] at hrun
    rw [← List.nil_append before, ← hrun, handle, htraced]
    rfl
  · have hbefore := Event.filterMap_sent?_of_asked fun e he =>
      hasked e (List.mem_append_left after he)
    have hafter := Event.filterMap_sent?_of_asked fun e he =>
      hasked e (List.mem_append_right before he)
    simp [hbefore, hafter, Event.sent?]
  · intro call hcall
    simp only [List.mem_append, List.mem_singleton, reduceCtorEq, or_false] at hcall
    have := hasked (.asked call) (by simpa using hcall)
    cases this
    rfl

end Gateway

end OperationGate
