import OperationGate.Proofs.Client.Cache
import OperationGate.Proofs.Client.Call

/-!
# Runs of a client

A client goes through steps, each with a transport of its own: calls made in one of the four ways,
and clearings of the cache. All copies of a client share what is kept, so they take the steps of one
client. `Inserts` says which calls bring in a body, and `Insertions` collects these since the last
clearing. What is kept after any steps are the latest of the insertions for which there is room, and
what is run for a call depends on what is kept: `Client.exists_insertions_of_new`.
-/

namespace OperationGate.Client

/-- What answers requests. -/
abbrev Transport := OutgoingRequest → Except Failure RawAnswer

/-- A call with the type of its result. -/
structure Task where
  Result : Type
  decode : Json → Option Result
  call : Call

/-- The result of a step, if it is a call. -/
abbrev Outcome := Option (Σ R : Type, Except Failure (Response R))

/-- Something that is done with a client. -/
inductive Step where
  | query {R : Type} (decode : Json → Option R) (name : String) (variableValues : Option Json)
    (options : TransportOptions) (context : Table String) (caching : CallCaching)
  | mutate {R : Type} (decode : Json → Option R) (name : String) (variableValues : Option Json)
    (options : TransportOptions) (context : Table String) (caching : CallCaching)
  | request {R : Type} (decode : Json → Option R) (call : Call)
  | execute {V R : Type} (op : TypedOperation V R) (variableValues : V) (options : TransportOptions)
    (context : Table String) (caching : CallCaching)
  | clear

namespace Step

/-- Does a step. -/
def run (transport : Transport) (c : Client) : Step → Outcome × Client
  | .query decode name variableValues options context caching =>
    let out := Id.run (c.query transport decode name variableValues options context caching)
    (some ⟨_, out.1⟩, out.2)
  | .mutate decode name variableValues options context caching =>
    let out := Id.run (c.mutate transport decode name variableValues options context caching)
    (some ⟨_, out.1⟩, out.2)
  | .request decode call =>
    let out := Id.run (c.request transport decode call)
    (some ⟨_, out.1⟩, out.2)
  | .execute op variableValues options context caching =>
    let out := Id.run (c.execute transport op variableValues options context caching)
    (some ⟨_, out.1⟩, out.2)
  | .clear => (none, c.clearCache)

/-- The call that a step makes: none if it clears the cache, or if no value stands for its
variables. -/
def task? : Step → Option Task
  | .query decode name variableValues options context caching =>
    some ⟨_, decode, ⟨.query, name, variableValues.getD .emptyObject, options, context, caching⟩⟩
  | .mutate decode name variableValues options context caching =>
    some ⟨_, decode, ⟨.mutation, name, variableValues.getD .emptyObject, options, context, caching⟩⟩
  | .request decode call => some ⟨_, decode, call⟩
  | .execute op variableValues options context caching =>
    (op.encode variableValues).map fun value =>
      ⟨_, op.decode, ⟨op.kind, op.name, value, options, context, caching⟩⟩
  | .clear => none

variable {transport : Transport} {c : Client} {step : Step}

/-- Whichever way a call is made, it is the call of a task. -/
lemma run_of_task?_eq_some {t : Task} (h : step.task? = some t) :
    step.run transport c =
      (some ⟨t.Result, (Id.run (c.request transport t.decode t.call)).1⟩,
        (Id.run (c.request transport t.decode t.call)).2) := by
  cases step with
  | query => cases h; rw [run, Client.query]
  | mutate => cases h; rw [run, Client.mutate]
  | request => cases h; rw [run]
  | execute op variableValues =>
    obtain ⟨value, hvalue, rfl⟩ := Option.map_eq_some_iff.1 h
    rw [run, Client.execute, hvalue]
  | clear => cases h

lemma run_clear : clear.run transport c = (none, c.clearCache) := rfl

/-- A step that makes no call and clears nothing fails, and leaves every client as it was. -/
lemma exists_run_of_task?_eq_none (h : step.task? = none) (hclear : step ≠ clear) :
    ∃ R, ∀ transport c, step.run transport c = (some ⟨R, .error .json⟩, c) := by
  cases step with
  | @execute _ R op variableValues =>
    have hvalue : op.encode variableValues = none := Option.map_eq_none_iff.1 h
    refine ⟨R, fun transport c => ?_⟩
    rw [run, Client.execute, hvalue]
    rfl
  | clear => exact absurd rfl hclear
  | _ => cases h

end Step

/-- Does steps one after the other. -/
def run (c : Client) : List (Transport × Step) → List Outcome × Client
  | [] => ([], c)
  | (transport, step) :: rest =>
    let out := step.run transport c
    let outs := out.2.run rest
    (out.1 :: outs.1, outs.2)

/-! ## Insertions -/

/-- A call brings a body into what is kept: it is a query that may be cached where the client runs,
its key is not there, and a body came back with a status of success that can be decoded. -/
structure Inserts (config : ClientConfig) (kept : List (String × Json)) (t : Task)
    (transport : Transport) (key : String) (body : Json) : Prop where
  query : t.call.kind = .query
  enabled : config.cache.enabledFor config.context
  allowed : t.call.caching.allows config.context
  key_eq : key = cacheKey config.cacheSpace t.call.kind t.call.name t.call.variableValues
  missed : key ∉ kept.map (·.1)
  answered : ∃ request a, t.call.request config = .ok request ∧
    transport (sentRequest config request) = .ok a ∧ a.isSuccess ∧ Json.read? a.body = some body
  decoded : ∃ r, Response.ofJson? t.decode body = some r

/-- No call brings in two bodies. -/
lemma Inserts.unique {config : ClientConfig} {kept : List (String × Json)} {t : Task}
    {transport : Transport} {key key' : String} {body body' : Json}
    (h : Inserts config kept t transport key body)
    (h' : Inserts config kept t transport key' body') : key = key' ∧ body = body' := by
  obtain ⟨request, a, hrequest, ha, -, hbody⟩ := h.answered
  obtain ⟨request', a', hrequest', ha', -, hbody'⟩ := h'.answered
  rw [hrequest, Except.ok.injEq] at hrequest'
  rw [← hrequest', ha, Except.ok.injEq] at ha'
  rw [← ha', hbody, Option.some.injEq] at hbody'
  exact ⟨h.key_eq.trans h'.key_eq.symm, hbody'⟩

/-- Steps lead from the insertions since the last clearing to those afterwards. What is kept
meanwhile are the latest insertions for which there is room. A step that makes no call brings
nothing in. -/
inductive Insertions (config : ClientConfig) :
    List (String × Json) → List (Transport × Step) → List (String × Json) → Prop where
  | nil (ins : List (String × Json)) : Insertions config ins [] ins
  | clear {ins ins' : List (String × Json)} {transport : Transport}
    {rest : List (Transport × Step)} :
    Insertions config [] rest ins' → Insertions config ins ((transport, .clear) :: rest) ins'
  | inserted {ins ins' : List (String × Json)} {transport : Transport} {step : Step} {t : Task}
    {key : String} {body : Json} {rest : List (Transport × Step)} :
    step.task? = some t → Inserts config (ins.rtake config.cache.maxSize) t transport key body →
      Insertions config (ins ++ [(key, body)]) rest ins' →
      Insertions config ins ((transport, step) :: rest) ins'
  | unchanged {ins ins' : List (String × Json)} {transport : Transport} {step : Step}
    {rest : List (Transport × Step)} :
    step ≠ .clear →
      (∀ t ∈ step.task?, ∀ key body, ¬Inserts config (ins.rtake config.cache.maxSize) t
        transport key body) →
        Insertions config ins rest ins' → Insertions config ins ((transport, step) :: rest) ins'

/-- Steps determine the insertions. -/
lemma Insertions.unique {config : ClientConfig} {ins ins' ins'' : List (String × Json)}
    {steps : List (Transport × Step)} (h : Insertions config ins steps ins')
    (h' : Insertions config ins steps ins'') : ins' = ins'' := by
  induction h with
  | nil => cases h'; rfl
  | clear _ ih =>
    cases h' with
    | clear h' => exact ih h'
    | inserted hsome _ _ => cases hsome
    | unchanged hclear _ _ => exact absurd rfl hclear
  | inserted hsome hins _ ih =>
    cases h' with
    | clear _ => cases hsome
    | inserted hsome' hins' h' =>
      cases hsome.symm.trans hsome'
      obtain ⟨rfl, rfl⟩ := hins.unique hins'
      exact ih h'
    | unchanged _ hnot _ => exact absurd hins (hnot _ hsome _ _)
  | unchanged hclear hnot _ ih =>
    cases h' with
    | clear _ => exact absurd rfl hclear
    | inserted hsome hins _ => exact absurd hins (hnot _ hsome _ _)
    | unchanged _ _ h' => exact ih h'

/-! ## What is kept -/

variable {c : Client} {config : ClientConfig}

/-- A call brings in a body just if a request is made for it under the key, and the answer can be
decoded. -/
lemma inserts_iff {t : Task} {transport : Transport} {key : String} {body : Json} :
    Inserts c.config c.cache.entries t transport key body ↔
      ∃ request r, c.start t.call = .pending ⟨some key, request⟩ ∧
        decoded t.decode (transport request) = .ok (body, r) := by
  constructor
  · intro h
    obtain ⟨request, a, hrequest, ha, hsuccess, hbody⟩ := h.answered
    obtain ⟨r, hr⟩ := h.decoded
    have hkey : t.call.key? c.config = some key :=
      Call.key?_eq_some_iff.2 ⟨h.query, h.enabled, h.allowed, h.key_eq⟩
    have hkind : t.call.kind ≠ .subscription := by simp [h.query]
    have hmissed : (t.call.key? c.config).bind c.cache.get? = none := by
      rw [hkey, Option.bind_some, ResponseCache.get?_eq_none_iff.2 h.missed]
    exact ⟨_, r, start_eq_pending_iff.2 ⟨hkind, hmissed, request, hrequest, by rw [hkey]⟩,
      decoded_eq_ok_iff.2 ⟨a, ha, hsuccess, hbody, hr⟩⟩
  · rintro ⟨_, r, hstart, hdecoded⟩
    obtain ⟨-, hmissed, request, hrequest, hpending⟩ := start_eq_pending_iff.1 hstart
    obtain ⟨hkey, rfl⟩ := Pending.mk.inj hpending
    obtain ⟨a, ha, hsuccess, hbody, hr⟩ := decoded_eq_ok_iff.1 hdecoded
    rw [← hkey, Option.bind_some] at hmissed
    obtain ⟨hquery, henabled, hallowed, hkeyEq⟩ := Call.key?_eq_some_iff.1 hkey.symm
    exact ⟨hquery, henabled, hallowed, hkeyEq, ResponseCache.get?_eq_none_iff.1 hmissed,
      ⟨request, a, hrequest, ha, hsuccess, hbody⟩, ⟨r, hr⟩⟩

/-- A call brings in its body, or leaves the client as it was. -/
lemma request_inserts (t : Task) (transport : Transport) :
    (∃ key body, Inserts c.config c.cache.entries t transport key body ∧
      (Id.run (c.request transport t.decode t.call)).2 =
      { c with cache := c.cache.insert key body }) ∨
    (∀ key body, ¬Inserts c.config c.cache.entries t transport key body) ∧
      (Id.run (c.request transport t.decode t.call)).2 = c := by
  cases hstart : c.start t.call with
  | failed e =>
    refine .inr ⟨fun key body h => ?_, congrArg Prod.snd (request_eq_of_failed hstart)⟩
    obtain ⟨_, _, hpending, -⟩ := inserts_iff.1 h
    cases hstart.symm.trans hpending
  | known body =>
    refine .inr ⟨fun key body h => ?_, congrArg Prod.snd (request_eq_of_known hstart)⟩
    obtain ⟨_, _, hpending, -⟩ := inserts_iff.1 h
    cases hstart.symm.trans hpending
  | pending p =>
    obtain ⟨key?, request⟩ := p
    rw [request_eq_of_pending hstart]
    cases hdecoded : decoded t.decode (transport request) with
    | error e =>
      refine .inr ⟨fun key body h => ?_, by rw [finish_eq_of_error hdecoded]⟩
      obtain ⟨_, _, hpending, hok⟩ := inserts_iff.1 h
      cases hstart.symm.trans hpending
      cases hdecoded.symm.trans hok
    | ok v =>
      rw [finish_eq_of_ok hdecoded]
      cases key? with
      | none =>
        refine .inr ⟨fun key body h => ?_, rfl⟩
        obtain ⟨_, _, hpending, -⟩ := inserts_iff.1 h
        cases hstart.symm.trans hpending
      | some key => exact .inl ⟨key, v.1, inserts_iff.2 ⟨request, v.2, hstart, hdecoded⟩, rfl⟩

/-- What a run knows of a client: its settings, and that it keeps the latest insertions for which
there is room, each under a key of its own. -/
structure Holds (config : ClientConfig) (ins : List (String × Json)) (c : Client) : Prop where
  config_eq : c.config = config
  capacity_eq : c.cache.capacity = config.cache.maxSize
  room : 0 < config.cache.maxSize
  entries_eq : c.cache.entries = ins.rtake config.cache.maxSize
  distinct : (c.cache.entries.map (·.1)).Nodup

/-- Settings without a fault leave room for an answer. -/
lemma room_of_fault?_eq_none (h : config.fault? = none) : 0 < config.cache.maxSize := by
  rw [ClientConfig.fault?] at h
  refine Nat.pos_of_ne_zero fun hzero => ?_
  split at h
  · cases h
  · split at h
    · cases h
    · split at h <;> cases h

/-- A new client keeps nothing. -/
lemma holds_of_new (h : Client.new config = .ok c) : Holds config [] c := by
  rw [new] at h
  cases hfault : config.fault? with
  | some issue => simp [hfault] at h
  | none =>
    rw [hfault] at h
    cases h
    have hroom : 0 < config.cache.maxSize := room_of_fault?_eq_none hfault
    exact ⟨rfl, Nat.max_eq_left hroom, hroom, by simp [ResponseCache.new], .nil⟩

/-- Clearing keeps nothing. -/
lemma Holds.cleared {ins : List (String × Json)} (h : Holds config ins c) :
    Holds config [] c.clearCache where
  config_eq := h.config_eq
  capacity_eq := h.capacity_eq
  room := h.room
  entries_eq := by simp [clearCache]
  distinct := .nil

/-- A body under a new key is the latest insertion. -/
lemma Holds.inserted {ins : List (String × Json)} (h : Holds config ins c) {key : String}
    (body : Json) (hmissed : key ∉ c.cache.entries.map (·.1)) :
    Holds config (ins ++ [(key, body)]) { c with cache := c.cache.insert key body } := by
  have hroom : 0 < c.cache.capacity := h.capacity_eq ▸ h.room
  have hentries : (c.cache.insert key body).entries =
      (c.cache.entries ++ [(key, body)]).rtake c.cache.capacity :=
    ResponseCache.entries_insert hroom (ResponseCache.get?_eq_none_iff.2 hmissed)
  have hkeys : ((c.cache.entries ++ [(key, body)]).map (·.1)).Nodup := by
    rw [List.map_append, List.nodup_append]
    refine ⟨h.distinct, by simp, fun k hk j hj => ?_⟩
    obtain rfl : j = key := by simpa using hj
    rintro rfl
    exact hmissed hk
  exact {
    config_eq := h.config_eq
    capacity_eq := by simp [h.capacity_eq]
    room := h.room
    entries_eq := by rw [hentries, h.entries_eq, h.capacity_eq, rtake_concat_rtake]
    distinct := by
      rw [hentries, List.rtake, List.map_drop]
      exact hkeys.drop }

/-- Steps keep the latest insertions that they make. -/
lemma Holds.run {ins : List (String × Json)} (h : Holds config ins c)
    (steps : List (Transport × Step)) :
    ∃ ins', Insertions config ins steps ins' ∧ Holds config ins' (c.run steps).2 := by
  induction steps generalizing c ins with
  | nil => exact ⟨ins, .nil ins, h⟩
  | cons s rest ih =>
    obtain ⟨transport, step⟩ := s
    rw [Client.run]
    cases htask : step.task? with
    | none =>
      by_cases hclear : step = .clear
      · subst hclear
        rw [Step.run_clear]
        obtain ⟨ins', hins', hrest⟩ := ih h.cleared
        exact ⟨ins', .clear hins', hrest⟩
      · obtain ⟨R, hrun⟩ := Step.exists_run_of_task?_eq_none htask hclear
        rw [hrun]
        obtain ⟨ins', hins', hrest⟩ := ih h
        exact ⟨ins', .unchanged hclear (by simp [htask]) hins', hrest⟩
    | some t =>
      have hclear : step ≠ .clear := by
        rintro rfl
        cases htask
      rw [Step.run_of_task?_eq_some htask]
      rcases request_inserts (c := c) t transport with ⟨key, body, hins, hc⟩ | ⟨hnot, hc⟩
      · rw [hc]
        obtain ⟨ins', hins', hrest⟩ := ih (h.inserted body hins.missed)
        rw [h.config_eq, h.entries_eq] at hins
        exact ⟨ins', .inserted htask hins hins', hrest⟩
      · rw [hc]
        obtain ⟨ins', hins', hrest⟩ := ih h
        rw [h.config_eq, h.entries_eq] at hnot
        refine ⟨ins', .unchanged hclear (fun t' ht' => ?_) hins', hrest⟩
        cases htask.symm.trans ht'
        exact hnot

/-- After any steps of a new client, what is kept are the latest insertions for which there is room.
A call that is answered from what is kept gives the decoded body, leaves the client as it is and
runs nothing. Any other query or mutation whose endpoint has an address runs the interceptor, the
transport, and the observer, each once, in this order, if they are there and, for the observer, the
answer is one of success. -/
theorem exists_insertions_of_new (h : Client.new config = .ok c) (steps : List (Transport × Step)) :
    ∃ ins, Insertions config [] steps ins ∧
      (c.run steps).2.cache.entries = ins.rtake config.cache.maxSize ∧
      ∀ (t : Task) (transport : Transport) (log : List Activity),
        (((c.run steps).2.perform transport t.decode t.call).run log).1 =
            Id.run ((c.run steps).2.request transport t.decode t.call) ∧
          (∀ key body, t.call.key? config = some key → (key, body) ∈ (c.run steps).2.cache.entries →
            ((c.run steps).2.perform transport t.decode t.call).run log =
              ((decodeBody t.decode body, (c.run steps).2), log)) ∧
          ∀ request, t.call.kind ≠ .subscription →
            (∀ key, t.call.key? config = some key → key ∉ (c.run steps).2.cache.entries.map (·.1)) →
            t.call.request config = .ok request →
              (((c.run steps).2.perform transport t.decode t.call).run log).2 =
                log ++ activities config transport request := by
  obtain ⟨ins, hins, hholds⟩ := (holds_of_new h).run steps
  refine ⟨ins, hins, hholds.entries_eq, fun t transport log => ⟨result_perform, ?_, ?_⟩⟩
  · intro key body hkey hmem
    refine run_perform_of_known (start_eq_known_iff.2 ⟨?_, ?_⟩)
    · rw [(Call.key?_eq_some_iff.1 hkey).1]
      exact fun hkind => nomatch hkind
    · rw [hholds.config_eq, hkey, Option.bind_some]
      exact ResponseCache.get?_eq_some_of_mem hholds.distinct hmem
  · intro request hkind hmissed hrequest
    rw [← hholds.config_eq] at hmissed hrequest ⊢
    have hkept : (t.call.key? (c.run steps).2.config).bind (c.run steps).2.cache.get? = none := by
      cases hkey : t.call.key? (c.run steps).2.config with
      | none => rfl
      | some key => exact ResponseCache.get?_eq_none_iff.2 (hmissed key hkey)
    rw [run_perform_of_pending hkind hkept hrequest]

/-- Settings of a client that keeps one answer. -/
def keepingConfig : ClientConfig :=
  { ClientConfig.new "https://a" with
    base := some ⟨"https", some ⟨"", "", .domain "a", none⟩, "/", none, none⟩
    cache := ⟨true, false, 1⟩ }

/-- A query without variables, with headers. -/
def plainQuery (headers : Headers) : Task :=
  ⟨Json, some, ⟨.query, "q", .emptyObject, ⟨headers, [], none⟩, .empty, .unchanged⟩⟩

lemma new_keepingConfig : Client.new keepingConfig = .ok ⟨keepingConfig, .new 1⟩ := rfl

lemma exists_request_plainQuery (headers : Headers) :
    ∃ request, (plainQuery headers).call.request keepingConfig = .ok request := by
  have hok : (keepingConfig.endpoint .query "q").toBool = true := by decide +kernel
  refine Call.exists_request_iff.2 ?_
  show ∃ url, keepingConfig.endpoint .query "q" = .ok url
  cases hurl : keepingConfig.endpoint .query "q" with
  | ok url => exact ⟨url, rfl⟩
  | error fault => simp [hurl, Except.toBool] at hok

/-- A transport that answers with an empty record. -/
def emptyAnswer : Transport := fun _ => .ok ⟨200, .empty, "\x7b\x7d"⟩

lemma read?_emptyAnswer : Json.read? "\x7b\x7d" = some (.record []) := by
  cbv

lemma inserts_plainQuery :
    ∃ key, Inserts keepingConfig [] (plainQuery .empty) emptyAnswer key (.record []) := by
  obtain ⟨request, hrequest⟩ := exists_request_plainQuery .empty
  exact ⟨_, rfl, rfl, rfl, rfl, by simp, ⟨request, _, hrequest, rfl, rfl, read?_emptyAnswer⟩,
    ⟨_, rfl⟩⟩

lemma exists_key_plainQuery :
    ∃ key, ∀ headers, (plainQuery headers).call.key? keepingConfig = some key :=
  ⟨cacheKey keepingConfig.cacheSpace .query "q" .emptyObject, fun _ =>
    Call.key?_eq_some_iff.2 ⟨rfl, rfl, rfl, rfl⟩⟩

lemma kind_plainQuery (headers : Headers) : (plainQuery headers).call.kind ≠ .subscription := by
  simp [plainQuery]

lemma start_plainQuery {headers : Headers} {key : String} {request : OutgoingRequest}
    (hkey : (plainQuery headers).call.key? keepingConfig = some key)
    (hrequest : (plainQuery headers).call.request keepingConfig = .ok request) :
    (Client.mk keepingConfig (.new 1)).start (plainQuery headers).call =
      .pending ⟨some key, sentRequest keepingConfig request⟩ :=
  start_eq_pending_iff.2 ⟨kind_plainQuery headers, by rw [hkey]; rfl, request,
    hrequest, by rw [hkey]⟩

/-- An empty record is a response without data. -/
lemma decoded_emptyAnswer (request : OutgoingRequest) :
    decoded some (emptyAnswer request) = .ok (.record [], (⟨none, [], .empty⟩ : Response Json)) :=
  decoded_eq_ok_iff.2 ⟨_, rfl, rfl, read?_emptyAnswer, rfl⟩

/-- An operation whose variables no value stands for. -/
def unwritable : TypedOperation Unit Json :=
  ⟨.query, "q", fun _ => none, some⟩

/-- A query, and a call that fails before it is made. -/
def sampleSteps : List (Transport × Step) :=
  [(emptyAnswer, .request (plainQuery .empty).decode (plainQuery .empty).call),
    (emptyAnswer, .execute unwritable () .none .empty .unchanged)]

/-- The body of the query is kept, and stays. -/
theorem exists_insertions_of_new_sample : ∃ c key, Client.new keepingConfig = .ok c ∧
    (c.run sampleSteps).2.cache.entries = [(key, .record [])] := by
  obtain ⟨key, hinserts⟩ := inserts_plainQuery
  obtain ⟨ins, hins, hentries, -⟩ := exists_insertions_of_new new_keepingConfig sampleSteps
  have hfails : Insertions keepingConfig [(key, .record [])]
      [(emptyAnswer, .execute unwritable () .none .empty .unchanged)] [(key, .record [])] :=
    .unchanged (by nofun) (by rintro t ⟨⟩) (.nil _)
  obtain rfl : ins = [(key, .record [])] := hins.unique (.inserted rfl hinserts hfails)
  exact ⟨_, key, new_keepingConfig, hentries⟩

end OperationGate.Client
