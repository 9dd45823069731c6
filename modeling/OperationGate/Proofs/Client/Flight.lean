import OperationGate.Proofs.Client.Run

/-!
# Calls that overlap

Copies of a client make calls at the same time. A call starts in one go: it is refused, answered
from what is kept, or sent off; and it ends in one go when an answer comes back for it. Between the
two, other calls may start and finish and the cache may be cleared, in any order (`Traffic.Moves`,
`Traffic.Reaches`).

Whatever the order, what is kept was brought back by finished calls with the same key, and a call
gets the result of its own answer or the decoding of a body that is kept under its key:
`Traffic.sound_of_reaches`.
-/

namespace OperationGate

open Client

/-- A call that was sent off. -/
structure Flight where
  task : Task
  pending : Pending

/-- A client with the calls that were sent off and are not finished. -/
structure Traffic where
  client : Client
  flights : List Flight

/-- Something that happens to a client. -/
inductive TrafficEvent where
  /-- A call is refused. -/
  | refused (t : Task) (failure : Failure)
  /-- A call is answered from what is kept. -/
  | known (t : Task) (result : Except Failure (Response t.Result))
  /-- A call is sent off. -/
  | sent (f : Flight)
  /-- A call is finished with what came back for it. -/
  | finished (f : Flight) (answer : Except Failure RawAnswer)
    (result : Except Failure (Response f.task.Result))
  /-- The cache is cleared. -/
  | cleared

namespace Traffic

/-- What can happen next. -/
inductive Moves : Traffic → TrafficEvent → Traffic → Prop where
  | refused {s : Traffic} {t : Task} {e : Failure} : s.client.start t.call = .failed e →
    Moves s (.refused t e) s
  | known {s : Traffic} {t : Task} {body : Json} :
    s.client.start t.call = .known body → Moves s (.known t (decodeBody t.decode body)) s
  | sent {s : Traffic} {t : Task} {p : Pending} :
    s.client.start t.call = .pending p → Moves s (.sent ⟨t, p⟩) ⟨s.client, s.flights ++ [⟨t, p⟩]⟩
  | finished {c : Client} {before after : List Flight} (f : Flight)
    (answer : Except Failure RawAnswer) :
    Moves ⟨c, before ++ f :: after⟩
      (.finished f answer (c.finish f.task.decode f.pending.key answer).1)
      ⟨(c.finish f.task.decode f.pending.key answer).2, before ++ after⟩
  | cleared {s : Traffic} : Moves s .cleared ⟨s.client.clearCache, s.flights⟩

/-- What happens one after the other to a client without calls leads to a state. -/
inductive Reaches (c : Client) : List TrafficEvent → Traffic → Prop where
  | start : Reaches c [] ⟨c, []⟩
  | step {events : List TrafficEvent} {e : TrafficEvent} {s s' : Traffic} :
    Reaches c events s → Moves s e s' → Reaches c (events ++ [e]) s'

/-- A finished call brought back a body for its key: it is a query that may be cached, and the body
came with a status of success and was decoded. -/
structure Brought (config : ClientConfig) (events : List TrafficEvent) (key : String) (body : Json)
    (f : Flight) (answer : Except Failure RawAnswer)
    (result : Except Failure (Response f.task.Result)) : Prop where
  finished : .finished f answer result ∈ events
  cacheable : f.task.call.key? config = some key
  answered : ∃ a, answer = .ok a ∧ a.isSuccess ∧ Json.read? a.body = some body
  decoded : ∃ r, Response.ofJson? f.task.decode body = some r ∧ result = .ok r

/-- A body was brought back for a key. -/
def WasBrought (config : ClientConfig) (events : List TrafficEvent) (key : String) (body : Json) :
    Prop :=
  ∃ f answer result, Brought config events key body f answer result

lemma WasBrought.later {config : ClientConfig} {events : List TrafficEvent} {key : String}
    {body : Json} (h : WasBrought config events key body) (e : TrafficEvent) :
    WasBrought config (events ++ [e]) key body := by
  obtain ⟨f, answer, result, h⟩ := h
  exact ⟨f, answer, result, { h with finished := List.mem_append_left _ h.finished }⟩

/-- What stays true whatever happens: what is kept was brought back, there is room for it, and calls
that were sent off carry their own keys. -/
structure Invariant (config : ClientConfig) (events : List TrafficEvent) (s : Traffic) : Prop where
  config_eq : s.client.config = config
  room : 0 < s.client.cache.capacity
  capacity_eq : s.client.cache.capacity = config.cache.maxSize
  size_le : s.client.cache.size ≤ config.cache.maxSize
  brought : ∀ e ∈ s.client.cache.entries, WasBrought config events e.1 e.2
  keys : ∀ f ∈ s.flights, f.pending.key = f.task.call.key? config

/-- A finished call whose body is decoded is one that brought it back. -/
lemma wasBrought_of_decoded {config : ClientConfig} {events : List TrafficEvent} {f : Flight}
    {answer : Except Failure RawAnswer} {key : String} {body : Json} {r : Response f.task.Result}
    (hfinished : .finished f answer (.ok r) ∈ events) (hkey : f.task.call.key? config = some key)
    (hdecoded : Client.decoded f.task.decode answer = .ok (body, r)) :
    WasBrought config events key body := by
  obtain ⟨a, ha, hsuccess, hbody, hr⟩ := decoded_eq_ok_iff.1 hdecoded
  exact ⟨f, answer, .ok r, ⟨hfinished, hkey, ⟨a, ha, hsuccess, hbody⟩, ⟨r, hr, rfl⟩⟩⟩

/-- Whatever happens next, the invariant stays true. -/
lemma Invariant.step {config : ClientConfig} {events : List TrafficEvent} {e : TrafficEvent}
    {s s' : Traffic} (h : Invariant config events s) (hmove : Moves s e s') :
    Invariant config (events ++ [e]) s' := by
  have hbrought : ∀ d ∈ s.client.cache.entries, WasBrought config (events ++ [e]) d.1 d.2 :=
    fun d hd => (h.brought d hd).later e
  cases hmove with
  | refused _ => exact { h with brought := hbrought }
  | known _ => exact { h with brought := hbrought }
  | @sent _ t p hstart =>
    refine { h with brought := hbrought, keys := fun f hf => ?_ }
    rcases List.mem_append.1 hf with hf | hf
    · exact h.keys f hf
    · obtain rfl := List.mem_singleton.1 hf
      obtain ⟨-, -, _, -, rfl⟩ := start_eq_pending_iff.1 hstart
      exact h.config_eq ▸ rfl
  | @finished c before after f answer =>
    have hkeys : ∀ g ∈ before ++ after, g.pending.key = g.task.call.key? config := fun g hg =>
      h.keys g ((List.mem_append.1 hg).elim (List.mem_append_left _)
        fun hg => List.mem_append_right _ (List.mem_cons_of_mem _ hg))
    have hkey : f.pending.key = f.task.call.key? config :=
      h.keys f (List.mem_append_right _ List.mem_cons_self)
    cases hdecoded : Client.decoded f.task.decode answer with
    | error e =>
      rw [finish_eq_of_error hdecoded] at hbrought ⊢
      exact { h with brought := hbrought, keys := hkeys }
    | ok v =>
      obtain ⟨body, r⟩ := v
      rw [finish_eq_of_ok hdecoded] at hbrought ⊢
      cases hcached : f.pending.key with
      | none => exact { h with brought := hbrought, keys := hkeys }
      | some key =>
        refine ⟨h.config_eq, ?_, ?_, ?_, fun d hd => ?_, hkeys⟩
        · simpa using h.room
        · simpa using h.capacity_eq
        · have hsize : (c.cache.insert key body).size ≤ _ :=
            ResponseCache.size_insert_le h.room (h.capacity_eq ▸ h.size_le)
          exact h.capacity_eq ▸ hsize
        · rcases ResponseCache.mem_insert hd with rfl | hd
          · exact wasBrought_of_decoded (List.mem_append_right _ (List.mem_singleton.2 rfl))
              (hkey.symm.trans hcached) hdecoded
          · exact hbrought d hd
  | cleared =>
    exact ⟨h.config_eq, h.room, h.capacity_eq, Nat.zero_le _, by simp [clearCache], h.keys⟩

lemma invariant_of_reaches {config : ClientConfig} {c : Client} (hnew : Client.new config = .ok c)
    {events : List TrafficEvent} {s : Traffic} (h : Reaches c events s) :
    Invariant config events s := by
  induction h with
  | start =>
    have hholds := holds_of_new hnew
    have hentries : c.cache.entries = [] := by rw [hholds.entries_eq, List.rtake_nil]
    exact ⟨hholds.config_eq, hholds.capacity_eq ▸ hholds.room, hholds.capacity_eq,
      by simp [ResponseCache.size, hentries], by simp [hentries], by simp⟩
  | step _ hmove ih => exact ih.step hmove

/-- What a next event says of its call and of what is kept then, where some events came before. -/
def IsSound (config : ClientConfig) (events : List TrafficEvent) (s : Traffic) (e : TrafficEvent)
    (s' : Traffic) : Prop :=
  match e with
  | .refused t failure =>
    s' = s ∧ (t.call.kind = .subscription ∧ failure = .config (.subscriptionCalled t.call.name) ∨
      ∃ fault, t.call.request config = .error fault ∧ failure = .url fault)
  | .known t result =>
    s' = s ∧ ∃ key body, t.call.key? config = some key ∧ WasBrought config events key body ∧
      result = decodeBody t.decode body
  | .sent _ => s'.client = s.client
  | .finished f answer result =>
    result = (Client.decoded f.task.decode answer).map (·.2) ∧
      (∀ key body r, f.task.call.key? config = some key →
        Client.decoded f.task.decode answer = .ok (body, r) →
        s'.client.cache.get? key = some body) ∧
      (f.task.call.key? config = none ∨ (∃ e, Client.decoded f.task.decode answer = .error e) →
        s'.client.cache = s.client.cache)
  | .cleared => s'.client.cache.entries = []

lemma Invariant.isSound {config : ClientConfig} {events : List TrafficEvent} {e : TrafficEvent}
    {s s' : Traffic} (h : Invariant config events s) (hmove : Moves s e s') :
    IsSound config events s e s' := by
  cases hmove with
  | refused hstart =>
    refine ⟨rfl, ?_⟩
    rcases start_eq_failed_iff.1 hstart with hkind | ⟨-, -, fault, hfault, rfl⟩
    · exact .inl hkind
    · exact .inr ⟨fault, h.config_eq ▸ hfault, rfl⟩
  | @known _ t body hstart =>
    obtain ⟨-, hkept⟩ := start_eq_known_iff.1 hstart
    obtain ⟨key, hkey, hget⟩ := Option.bind_eq_some_iff.1 hkept
    exact ⟨rfl, key, body, h.config_eq ▸ hkey, h.brought _ (ResponseCache.mem_of_get?_eq_some hget),
      rfl⟩
  | sent _ => rfl
  | @finished c before after f answer =>
    have hkey : f.pending.key = f.task.call.key? config :=
      h.keys f (List.mem_append_right _ List.mem_cons_self)
    cases hdecoded : Client.decoded f.task.decode answer with
    | error e =>
      refine ⟨?_, ?_, fun _ => ?_⟩
      · rw [finish_eq_of_error hdecoded, hdecoded]
        rfl
      · rintro key body r - h
        rw [hdecoded] at h
        cases h
      · rw [finish_eq_of_error hdecoded]
    | ok v =>
      obtain ⟨body, r⟩ := v
      refine ⟨?_, ?_, ?_⟩
      · rw [finish_eq_of_ok hdecoded, hdecoded]
        rfl
      · rintro key body' r' hcached h
        rw [hdecoded] at h
        cases h
        rw [finish_eq_of_ok hdecoded, hkey, hcached]
        exact ResponseCache.get?_insert_self
      · rintro (hnone | ⟨e, he⟩)
        · rw [finish_eq_of_ok hdecoded, hkey, hnone]
          rfl
        · rw [hdecoded] at he
          cases he
  | cleared => rfl

/-- Whatever calls overlap in whatever order: every body that is kept was brought back by a finished
call with its key, there is room for all that is kept, and what happens next is sound. -/
theorem sound_of_reaches {config : ClientConfig} {c : Client} (hnew : Client.new config = .ok c)
    {events : List TrafficEvent} {s : Traffic} (h : Reaches c events s) :
    (∀ key body, (key, body) ∈ s.client.cache.entries → WasBrought config events key body) ∧
      s.client.cache.size ≤ config.cache.maxSize ∧
      ∀ e s', Moves s e s' → IsSound config events s e s' := by
  have hinv := invariant_of_reaches hnew h
  exact ⟨fun key body hmem => hinv.brought _ hmem, hinv.size_le,
    fun e s' hmove => hinv.isSound hmove⟩

/-- A query that is sent off, is overtaken by a clearing of the cache and then finished, keeps its
answer. -/
theorem sound_of_reaches_sample :
    ∃ c events s key, Client.new keepingConfig = .ok c ∧ Reaches c events s ∧
    (key, .record []) ∈ s.client.cache.entries ∧ WasBrought keepingConfig events key (.record []) ∧
    s.client.cache.size ≤ 1 := by
  obtain ⟨key, hkey⟩ := exists_key_plainQuery
  obtain ⟨request, hrequest⟩ := exists_request_plainQuery .empty
  have hstart := start_plainQuery (hkey .empty) hrequest
  have hreaches := ((Reaches.start.step (.sent hstart)).step .cleared).step
    (@Moves.finished _ [] [] ⟨plainQuery .empty, _⟩ (emptyAnswer request))
  have hkept : (key, Json.record []) ∈ ((Client.mk keepingConfig (.new 1)).clearCache.finish
      (plainQuery .empty).decode (some key) (emptyAnswer request)).2.cache.entries := by
    have hdecoded : Client.decoded (plainQuery .empty).decode (emptyAnswer request) = _ :=
      decoded_emptyAnswer request
    rw [finish_eq_of_ok hdecoded, Option.elim_some]
    exact ResponseCache.mem_of_get?_eq_some ResponseCache.get?_insert_self
  obtain ⟨hbrought, hsize, -⟩ := sound_of_reaches new_keepingConfig hreaches
  exact ⟨_, _, _, key, new_keepingConfig, hreaches, hkept, hbrought _ _ hkept, hsize⟩

end Traffic

end OperationGate
