import OperationGate.Client.Activity
import OperationGate.Proofs.Text.Parts

/-!
# What a call does

A call is refused, answered from what is kept, or on its way with a request:
`Client.start_eq_failed_iff`, `Client.start_eq_known_iff` and `Client.start_eq_pending_iff`. A call
on its way ends with a body that is decoded, or fails and leaves the client as it was:
`Client.finish_eq_of_ok` and `Client.finish_eq_of_error`. What is run for
these kinds of calls is in `Client.run_perform_of_failed`, `Client.run_perform_of_known` and
`Client.run_perform_of_pending`.
-/

namespace OperationGate

/-- The answer to a call may be cached if it is a query, and neither the settings nor the call are
against it. -/
lemma Call.key?_eq_some_iff {config : ClientConfig} {call : Call} {key : String} :
    call.key? config = some key ↔
      call.kind = .query ∧ config.cache.enabledFor config.context ∧
        call.caching.allows config.context ∧
        key = cacheKey config.cacheSpace call.kind call.name call.variableValues := by
  rw [key?]
  split
  next h =>
    simp only [isCacheable, Bool.and_eq_true, decide_eq_true_eq] at h
    simp [h, eq_comm]
  next h =>
    simp only [isCacheable, Bool.and_eq_true, decide_eq_true_eq] at h
    simp only [reduceCtorEq, false_iff]
    rintro ⟨hkind, henabled, hallowed, -⟩
    exact h ⟨⟨hkind, henabled⟩, hallowed⟩

/-- A call makes a request if its endpoint has an address. -/
lemma Call.exists_request_iff {config : ClientConfig} {call : Call} :
    (∃ request, call.request config = .ok request) ↔ ∃ url,
    config.endpoint call.kind call.name = .ok url := by
  simp only [request, bind_eq_ok]
  constructor
  · rintro ⟨_, url, hurl, -⟩
    exact ⟨url, hurl⟩
  · rintro ⟨url, hurl⟩
    exact ⟨_, url, hurl, rfl⟩

namespace Client

variable {R : Type} {c : Client} {call : Call} {decode : Json → Option R}

/-- The request of a call as it is sent. -/
def sentRequest (config : ClientConfig) (request : OutgoingRequest) : OutgoingRequest :=
  (config.interceptor.getD id) request

/-! ## The start of a call -/

theorem start_eq_failed_iff {e : Failure} :
    c.start call = .failed e ↔
      call.kind = .subscription ∧ e = .config (.subscriptionCalled call.name) ∨
      call.kind ≠ .subscription ∧ (call.key? c.config).bind c.cache.get? = none ∧
        ∃ fault, call.request c.config = .error fault ∧ e = .url fault := by
  rw [start]
  split
  next h => simp [h, eq_comm]
  next h =>
    cases hkept : (call.key? c.config).bind c.cache.get? with
    | some body => simp [h, hkept]
    | none => cases hrequest : call.request c.config <;> simp [h, hkept, eq_comm]

theorem start_eq_known_iff {body : Json} :
    c.start call = .known body ↔
      call.kind ≠ .subscription ∧ (call.key? c.config).bind c.cache.get? = some body := by
  rw [start]
  split
  next h => simp [h]
  next h =>
    cases hkept : (call.key? c.config).bind c.cache.get? with
    | some body => simp [h, hkept]
    | none => cases hrequest : call.request c.config <;> simp [h, hkept]

theorem start_eq_pending_iff {p : Pending} :
    c.start call = .pending p ↔
      call.kind ≠ .subscription ∧ (call.key? c.config).bind c.cache.get? = none ∧
        ∃ request, call.request c.config = .ok request ∧
          p = ⟨call.key? c.config, sentRequest c.config request⟩ := by
  rw [start]
  split
  next h => simp [h]
  next h =>
    cases hkept : (call.key? c.config).bind c.cache.get? with
    | some body => simp [h, hkept]
    | none => cases hrequest : call.request c.config <;> simp [h, hkept, eq_comm, sentRequest]

/-! ## The end of a call -/

lemma received_eq_ok_iff {answer : Except Failure RawAnswer} {a : RawAnswer} :
    received answer = .ok a ↔ answer = .ok a ∧ a.isSuccess := by
  cases answer with
  | error e => simp [received]
  | ok b =>
    rw [received]
    split
    next h => simp only [Except.ok.injEq]; exact ⟨fun hb => ⟨hb, hb ▸ h⟩, fun hb => hb.1⟩
    next h =>
      simp only [reduceCtorEq, false_iff, Except.ok.injEq]
      rintro ⟨rfl, hsuccess⟩
      exact h hsuccess

lemma decodeBody_eq_ok_iff {body : Json} {r : Response R} :
    decodeBody decode body = .ok r ↔ Response.ofJson? decode body = some r := by
  rw [decodeBody]
  cases Response.ofJson? decode body <;> simp

/-- A body is decoded if it came with a status of success. -/
lemma decoded_eq_ok_iff {answer : Except Failure RawAnswer} {body : Json} {r : Response R} :
    decoded decode answer = .ok (body, r) ↔
      ∃ a, answer = .ok a ∧ a.isSuccess ∧ Json.read? a.body = some body ∧
        Response.ofJson? decode body = some r := by
  rw [decoded, bind_eq_ok]
  simp only [received_eq_ok_iff, and_assoc]
  refine exists_congr fun a => and_congr_right fun _ => and_congr_right fun _ => ?_
  cases Json.read? a.body with
  | none => simp
  | some v =>
    rw [bind_eq_ok]
    simp only [decodeBody_eq_ok_iff, Option.some.injEq]
    constructor
    · rintro ⟨r', hr', h⟩
      cases h
      exact ⟨rfl, hr'⟩
    · rintro ⟨rfl, hr⟩
      exact ⟨r, hr, rfl⟩

/-- A call whose body is decoded keeps it, if its answer may be cached. -/
theorem finish_eq_of_ok {key : Option String} {answer : Except Failure RawAnswer} {body : Json}
    {r : Response R} (h : decoded decode answer = .ok (body, r)) :
    c.finish decode key answer =
    (.ok r, { c with cache := key.elim c.cache fun k => c.cache.insert k body }) := by
  rw [finish, h]

/-- A call that fails leaves the client as it was. -/
theorem finish_eq_of_error {key : Option String} {answer : Except Failure RawAnswer} {e : Failure}
    (h : decoded decode answer = .error e) : c.finish decode key answer = (.error e, c) := by
  rw [finish, h]

/-! ## Whole calls -/

variable {transport : OutgoingRequest → Except Failure RawAnswer}

lemma request_eq_of_failed {e : Failure} (h : c.start call = .failed e) :
    Id.run (c.request transport decode call) = (.error e, c) := by
  rw [Client.request, h]
  rfl

lemma request_eq_of_known {body : Json} (h : c.start call = .known body) :
    Id.run (c.request transport decode call) = (decodeBody decode body, c) := by
  rw [Client.request, h]
  rfl

lemma request_eq_of_pending {p : Pending} (h : c.start call = .pending p) :
    Id.run (c.request transport decode call) = c.finish decode p.key (transport p.request) := by
  rw [Client.request, h]
  rfl

/-! ## What is run -/

/-- What the observer is shown: an answer of success. -/
def shown (config : ClientConfig) : Except Failure RawAnswer → List Activity
  | .error _ => []
  | .ok a => if a.isSuccess ∧ config.isObserved then [.observed a] else []

/-- What is run for a call that makes a request: the interceptor if there is one, the transport, and
the observer if there is one to be shown the answer. -/
def activities (config : ClientConfig) (transport : OutgoingRequest → Except Failure RawAnswer)
    (request : OutgoingRequest) : List Activity :=
  (if config.interceptor.isSome then [.intercepted request] else []) ++
    .sent (sentRequest config request) :: shown config (transport (sentRequest config request))

variable {log : List Activity}

/-- Steps that follow others go on with their answer and their record. -/
lemma run_bind_of_run {α β : Type} {x : Recorded α} {f : α → Recorded β} {a : α}
    {log' : List Activity} (h : x.run log = (a, log')) : (x >>= f).run log = (f a).run log' := by
  rw [StateT.run_bind, h]
  rfl

lemma run_intercept (config : ClientConfig) (request : OutgoingRequest) :
    (Recorded.intercept config request).run log =
      (sentRequest config request,
        log ++ if config.interceptor.isSome then [.intercepted request] else []) := by
  rw [Recorded.intercept, sentRequest]
  cases config.interceptor with
  | none =>
    rw [Option.isSome_none, if_neg Bool.false_ne_true, List.append_nil]
    rfl
  | some f => rfl

lemma run_dispatch (request : OutgoingRequest) :
    (Recorded.dispatch transport request).run log =
    (received (transport request), log ++ [.sent request]) :=
  rfl

lemma run_observe (config : ClientConfig) (a : RawAnswer) :
    (Recorded.observe config a).run log =
    ((), log ++ if config.isObserved then [.observed a] else []) := by
  rw [Recorded.observe]
  split
  · rfl
  · rw [List.append_nil]
    rfl

/-- A call that is answered from what is kept runs nothing. -/
theorem run_perform_of_known {body : Json} (h : c.start call = .known body) :
    (c.perform transport decode call).run log = ((decodeBody decode body, c), log) := by
  obtain ⟨hkind, hkept⟩ := start_eq_known_iff.1 h
  rw [perform, if_neg hkind]
  simp only [hkept]
  rfl

/-- A call that is refused runs nothing. -/
theorem run_perform_of_failed {e : Failure} (h : c.start call = .failed e) :
    (c.perform transport decode call).run log = ((.error e, c), log) := by
  rcases start_eq_failed_iff.1 h with ⟨hkind, rfl⟩ | ⟨hkind, hkept, fault, hfault, rfl⟩
  · rw [perform, if_pos hkind]
    rfl
  · rw [perform, if_neg hkind]
    simp only [hkept, hfault]
    rfl

/-- A call that makes a request runs the interceptor and the transport once, and shows an answer of
success to the observer; its result and what is kept are those of the call without a record. -/
theorem run_perform_of_pending {request : OutgoingRequest} (hkind : call.kind ≠ .subscription)
    (hkept : (call.key? c.config).bind c.cache.get? = none)
    (hrequest : call.request c.config = .ok request) :
    (c.perform transport decode call).run log =
      (Id.run (c.request transport decode call), log ++ activities c.config transport request) := by
  have hstart := start_eq_pending_iff.2 ⟨hkind, hkept, request, hrequest, rfl⟩
  rw [request_eq_of_pending hstart, perform, if_neg hkind, activities]
  simp only [hkept, hrequest]
  rw [run_bind_of_run (run_intercept c.config request), run_bind_of_run (run_dispatch _)]
  rw [← List.append_assoc, List.append_cons _ (Activity.sent _) (shown _ _)]
  cases transport (sentRequest c.config request) with
  | error e => simp only [received, shown, List.append_nil]; rfl
  | ok a =>
    by_cases hsuccess : a.isSuccess
    · simp only [received, shown, hsuccess, if_true, true_and]
      exact run_bind_of_run (run_observe c.config a)
    · simp only [received, shown, hsuccess, Bool.false_eq_true, if_false, false_and,
        List.append_nil, finish, decoded]
      rfl

/-- The record changes neither the result of a call nor what is kept. -/
lemma result_perform :
    ((c.perform transport decode call).run log).1 = Id.run (c.request transport decode call) := by
  cases hstart : c.start call with
  | failed e => rw [run_perform_of_failed hstart, request_eq_of_failed hstart]
  | known body => rw [run_perform_of_known hstart, request_eq_of_known hstart]
  | pending p =>
    obtain ⟨hkind, hkept, request, hrequest, -⟩ := start_eq_pending_iff.1 hstart
    rw [run_perform_of_pending hkind hkept hrequest]

end Client

end OperationGate
