import Runsheet.Agent.Orchestrator
import Runsheet.Config.Settings

/-!
# The Redis session store

`session/redis_store.py` keeps each conversation under the key `session:<id>` of a Redis
server, written with `SETEX` and so given a time to live, by default `session_ttl_hours`
hours. The agent reads and writes it through `_load_conversation_history`,
`_save_conversation_history` and `_clear_session`. The agent model of `Agent.Orchestrator`
treats the store as an association list with no expiry; here the store is the code's, over a
server whose keys expire.

The server is the environment, given by the commands the store sends: `GET`, `SETEX`, `DEL`
and `EXPIRE`, with times in milliseconds. `json.dumps` and `json.loads` are left out: the
session data the agent stores (strings, a list of messages, a count) reads back as written,
so the server holds the data itself.

## Main results

- `sessions_refine_agent_store`: while no saved session outlives its time to live, the Redis
  store answers every load as the agent model's store does, for every sequence of saves,
  loads and clears.
- `subsecond_ttl`: a time to live that is not zero but under one second makes `set` fail and
  makes `refresh_ttl` delete a live session while reporting success.
-/

namespace Runsheet.Session

open Runsheet.Python Runsheet.Agent

/-! ### The Redis server -/

/-- A key of the server, its value, and the time in milliseconds at which it expires. -/
structure Entry (α : Type) where
  key : PyStr
  value : α
  expireAt : Int

/-- A Redis server, as the commands the store sends see it. -/
structure Redis (α : Type) where
  entries : List (Entry α)

namespace Redis

variable {α : Type}

/-- The entry under a key, expired or not. -/
def find (r : Redis α) (key : PyStr) : Option (Entry α) :=
  r.entries.find? (·.key == key)

/-- The server without a key. -/
def remove (r : Redis α) (key : PyStr) : Redis α :=
  ⟨r.entries.filter (·.key != key)⟩

/-- `GET key` at time `now`: the value, while the key has not expired. -/
def get (r : Redis α) (now : Int) (key : PyStr) : Option α :=
  match r.find key with
  | some e => if now < e.expireAt then some e.value else none
  | none => none

/-- `SETEX key seconds value`, which Redis refuses for a time that is not positive. -/
def setex (r : Redis α) (now : Int) (key : PyStr) (seconds : Int) (value : α) :
    Option (Redis α) :=
  if seconds ≤ 0 then none
  else some ⟨⟨key, value, now + 1000 * seconds⟩ :: (r.remove key).entries⟩

/-- `EXPIRE key seconds`: whether the key was live, and the server after. A time that is not
positive deletes the key. -/
def expire (r : Redis α) (now : Int) (key : PyStr) (seconds : Int) : Bool × Redis α :=
  match r.get now key with
  | none => (false, r)
  | some v =>
    if seconds ≤ 0 then (true, r.remove key)
    else (true, ⟨⟨key, v, now + 1000 * seconds⟩ :: (r.remove key).entries⟩)

@[simp] theorem find_remove_self (r : Redis α) (key : PyStr) : (r.remove key).find key = none := by
  simp [find, remove, List.find?_filter]

theorem find_remove_of_ne (r : Redis α) {key key' : PyStr} (ne : key' ≠ key) :
    (r.remove key).find key' = r.find key' := by
  simp only [find, remove, List.find?_filter]
  congr 1
  funext e
  by_cases same : e.key = key' <;> simp [same, ne]

theorem find_cons (r : Redis α) (e : Entry α) (key : PyStr) :
    (⟨e :: r.entries⟩ : Redis α).find key = if e.key = key then some e else r.find key := by
  by_cases same : e.key = key <;> simp [find, List.find?_cons, same]

/-- A key whose entry has not expired reads back its value. -/
theorem get_of_live {r : Redis α} {now : Int} {key : PyStr}
    (live : ∀ e, r.find key = some e → now < e.expireAt) :
    r.get now key = (r.find key).map (·.value) := by
  unfold get
  split
  · rename_i e found
    simp [live e found, found]
  · simp [*]

end Redis

/-! ### `RedisSessionStore` -/

/-- The exceptions the store's methods raise. -/
inductive StoreError where
  /-- A `RuntimeError` of the store. -/
  | runtimeError (message : PyStr)
  /-- The `ResponseError` Redis answers a `SETEX` whose time is not positive with. -/
  | invalidExpireTime
  deriving DecidableEq

/-- The message of the store's `RuntimeError` before `connect()`. -/
def notConnectedMessage : PyStr :=
  pyStr "Redis client not connected. Call connect() first."

/-- `RedisSessionStore`: its `default_ttl`, a `timedelta` in microseconds, and whether
`connect()` has set `client`. -/
structure RedisSessionStore where
  defaultTtl : Int
  connected : Bool

/-- `DEFAULT_SESSION_TTL`, 24 hours. -/
def defaultSessionTtl : Int := 24 * 3600 * 1000000

namespace RedisSessionStore

variable {α : Type}

/-- `RedisSessionStore(redis_url, default_ttl)`. -/
def init (defaultTtl : Int := defaultSessionTtl) : RedisSessionStore :=
  ⟨defaultTtl, false⟩

/-- `connect()`. -/
def connect (store : RedisSessionStore) : RedisSessionStore :=
  { store with connected := true }

/-- `_get_key(session_id)`. -/
def getKey (sessionId : String) : PyStr :=
  pyStr "session:" ++ pyStr sessionId

/-- `int((ttl or self.default_ttl).total_seconds())`: a zero `timedelta` is falsy. -/
def ttlSeconds (store : RedisSessionStore) (ttl : Option Int) : Int :=
  (match ttl with
   | some t => if t = 0 then store.defaultTtl else t
   | none => store.defaultTtl).tdiv 1000000

/-- `get(session_id)`. -/
def get (store : RedisSessionStore) (r : Redis α) (now : Int) (sessionId : String) :
    Except StoreError (Option α) :=
  if !store.connected then .error (.runtimeError notConnectedMessage)
  else .ok (r.get now (getKey sessionId))

/-- `set(session_id, data, ttl)`. -/
def set (store : RedisSessionStore) (r : Redis α) (now : Int) (sessionId : String) (data : α)
    (ttl : Option Int) : Except StoreError (Redis α) :=
  if !store.connected then .error (.runtimeError notConnectedMessage)
  else match r.setex now (getKey sessionId) (store.ttlSeconds ttl) data with
    | some r => .ok r
    | none => .error .invalidExpireTime

/-- `delete(session_id)`. -/
def delete (store : RedisSessionStore) (r : Redis α) (sessionId : String) :
    Except StoreError (Redis α) :=
  if !store.connected then .error (.runtimeError notConnectedMessage)
  else .ok (r.remove (getKey sessionId))

/-- `refresh_ttl(session_id, ttl)`. -/
def refreshTtl (store : RedisSessionStore) (r : Redis α) (now : Int) (sessionId : String)
    (ttl : Option Int) : Except StoreError (Bool × Redis α) :=
  if !store.connected then .error (.runtimeError notConnectedMessage)
  else .ok (r.expire now (getKey sessionId) (store.ttlSeconds ttl))

/-- `health_check()`, given what `PING` returned, or `none` if it raised. -/
def healthCheck (store : RedisSessionStore) (ping : Option Bool) : Bool :=
  store.connected && ping == some true

theorem getKey_injective {a b : String} (same : getKey a = getKey b) : a = b := by
  have chars : a.toList.map Char.toNat = b.toList.map Char.toNat :=
    List.append_cancel_left same
  exact String.ext (List.map_injective_iff.mpr
    (fun _ _ h => Char.ext (UInt32.eq_of_val_eq (Fin.ext h))) chars)

end RedisSessionStore

/-- `_get_session_store()`: a store when `redis_url` is set, with `session_ttl_hours` hours
as its default time to live. -/
def getSessionStore (settings : Config.Settings) : Option RedisSessionStore :=
  if Config.truthy settings.redisUrl then
    some (RedisSessionStore.init (settings.sessionTtlHours * 3600 * 1000000))
  else none

/-! ### The agent's use of the store -/

/-- The `session_data` dict `_save_conversation_history` stores. -/
structure SessionData where
  sessionId : String
  messages : List Message
  updatedAt : PyStr
  messageCount : Nat

open RedisSessionStore

section Agent

variable (store : RedisSessionStore)

/-- `_save_conversation_history(session_id, messages)` once the store is connected:
`updatedAt` is `datetime.utcnow().isoformat()`. The result is `True` when the data was
saved; an exception is logged and gives `False`. -/
def saveConversationHistory (r : Redis SessionData) (now : Int) (updatedAt : PyStr)
    (sessionId : String) (messages : List Message) : Bool × Redis SessionData :=
  match store.set r now sessionId
      ⟨sessionId, messages, updatedAt ++ pyStr "Z", messages.length⟩ none with
  | .ok r => (true, r)
  | .error _ => (false, r)

/-- `_load_conversation_history(session_id)` once the store is connected. -/
def loadConversationHistory (r : Redis SessionData) (now : Int) (sessionId : String) :
    Option (List Message) :=
  match store.get r now sessionId with
  | .ok (some data) => some data.messages
  | _ => none

/-- `_clear_session(session_id)` once the store is connected. -/
def clearSession (r : Redis SessionData) (sessionId : String) : Bool × Redis SessionData :=
  match store.delete r sessionId with
  | .ok r => (true, r)
  | .error _ => (false, r)

end Agent

/-! ### The store refines the agent model's store -/

section Refinement

variable {store : RedisSessionStore}

theorem lookup_cons_of_ne {sid key : String} {messages : List Message} (ne : sid ≠ key)
    (sessions : List (String × List Message)) :
    ((key, messages) :: sessions).lookup sid = sessions.lookup sid := by
  simp [List.lookup_cons, beq_false_of_ne ne]

theorem lookup_filter_self (sid : String) :
    ∀ sessions : List (String × List Message), (sessions.filter (·.1 != sid)).lookup sid = none
  | [] => rfl
  | (key, messages) :: ps => by
    by_cases same : key = sid
    · simp [same, lookup_filter_self sid ps]
    · simp [same, lookup_cons_of_ne (Ne.symm same), lookup_filter_self sid ps]

theorem lookup_filter_of_ne {sid sid' : String} (ne : sid' ≠ sid) :
    ∀ sessions : List (String × List Message),
      (sessions.filter (·.1 != sid)).lookup sid' = sessions.lookup sid'
  | [] => rfl
  | (key, messages) :: ps => by
    by_cases same : key = sid
    · subst same
      simp [lookup_cons_of_ne ne, lookup_filter_of_ne ne ps]
    · simp [same, List.lookup_cons, lookup_filter_of_ne ne ps]

theorem saveConversationHistory_eq (connected : store.connected = true)
    (positive : 0 < store.ttlSeconds none) (r : Redis SessionData) (now : Int)
    (updatedAt : PyStr) (sid : String) (messages : List Message) :
    saveConversationHistory store r now updatedAt sid messages =
      (true, ⟨⟨getKey sid, ⟨sid, messages, updatedAt ++ pyStr "Z", messages.length⟩,
        now + 1000 * store.ttlSeconds none⟩ :: (r.remove (getKey sid)).entries⟩) := by
  simp [saveConversationHistory, RedisSessionStore.set, connected, Redis.setex,
    not_le.mpr positive]

theorem clearSession_eq (connected : store.connected = true) (r : Redis SessionData)
    (sid : String) : clearSession store r sid = (true, r.remove (getKey sid)) := by
  simp [clearSession, RedisSessionStore.delete, connected]

theorem loadConversationHistory_eq (connected : store.connected = true) (r : Redis SessionData)
    (now : Int) (sid : String) :
    loadConversationHistory store r now sid = (r.get now (getKey sid)).map (·.messages) := by
  simp only [loadConversationHistory, RedisSessionStore.get, connected, Bool.not_true]
  cases r.get now (getKey sid) <;> rfl

/-- The server holds, under each session's key, data whose messages are what the agent
model's store lists for the session, and every such key lives at least until `deadline`. -/
structure Simulates (sessions : List (String × List Message)) (r : Redis SessionData)
    (deadline : Int) : Prop where
  agree : ∀ sid, (r.find (getKey sid)).map (·.value.messages) = sessions.lookup sid
  live : ∀ sid e, r.find (getKey sid) = some e → deadline ≤ e.expireAt

theorem Simulates.empty (deadline : Int) : Simulates [] ⟨[]⟩ deadline :=
  ⟨fun _ => rfl, fun _ _ found => by cases found⟩

theorem Simulates.load {sessions : List (String × List Message)} {r : Redis SessionData}
    {deadline now : Int} (sim : Simulates sessions r deadline) (connected : store.connected = true)
    (early : now < deadline) (sid : String) :
    loadConversationHistory store r now sid = sessions.lookup sid := by
  rw [loadConversationHistory_eq connected, Redis.get_of_live
    fun e found => lt_of_lt_of_le early (sim.live sid e found), Option.map_map]
  exact sim.agree sid

theorem Simulates.save {sessions : List (String × List Message)} {r : Redis SessionData}
    {deadline now : Int} (sim : Simulates sessions r deadline) (connected : store.connected = true)
    (positive : 0 < store.ttlSeconds none) (late : deadline ≤ now + 1000 * store.ttlSeconds none)
    (updatedAt : PyStr) (sid : String) (messages : List Message) :
    Simulates ((sid, messages) :: sessions.filter (·.1 != sid))
      (saveConversationHistory store r now updatedAt sid messages).2 deadline := by
  rw [saveConversationHistory_eq connected positive]
  constructor
  · intro sid'
    by_cases same : sid' = sid
    · subst same
      simp [Redis.find_cons]
    · have apart : getKey sid ≠ getKey sid' := fun h => same (getKey_injective h).symm
      simp [Redis.find_cons, apart, Redis.find_remove_of_ne r apart.symm,
        lookup_cons_of_ne same, lookup_filter_of_ne same, sim.agree sid']
  · intro sid' e found
    by_cases same : getKey sid = getKey sid'
    · simp only [Redis.find_cons, same, if_true, Option.some.injEq] at found
      subst found
      exact late
    · simp only [Redis.find_cons, same, if_false, Redis.find_remove_of_ne r (Ne.symm same)]
        at found
      exact sim.live sid' e found

theorem Simulates.clear {sessions : List (String × List Message)} {r : Redis SessionData}
    {deadline : Int} (sim : Simulates sessions r deadline) (connected : store.connected = true)
    (sid : String) :
    Simulates (sessions.filter (·.1 != sid)) (clearSession store r sid).2 deadline := by
  rw [clearSession_eq connected]
  constructor
  · intro sid'
    by_cases same : sid' = sid
    · subst same
      simp [lookup_filter_self]
    · have apart : getKey sid' ≠ getKey sid := fun h => same (getKey_injective h)
      simp only [Redis.find_remove_of_ne _ apart, lookup_filter_of_ne same]
      exact sim.agree sid'
  · intro sid' e found
    by_cases same : getKey sid' = getKey sid
    · rw [same, Redis.find_remove_self] at found
      cases found
    · rw [Redis.find_remove_of_ne r same] at found
      exact sim.live sid' e found

/-- A call the agent makes on its session store. -/
inductive SessionCall where
  | save (sessionId : String) (messages : List Message) (updatedAt : PyStr)
  | load (sessionId : String)
  | clear (sessionId : String)

/-- Calls on the Redis store, each at its time in milliseconds: what each load answers. -/
def runOnRedis (store : RedisSessionStore) :
    List (SessionCall × Int) → Redis SessionData → List (Option (List Message))
  | [], _ => []
  | (.save sid messages updatedAt, now) :: calls, r =>
    none :: runOnRedis store calls (saveConversationHistory store r now updatedAt sid messages).2
  | (.load sid, now) :: calls, r =>
    loadConversationHistory store r now sid :: runOnRedis store calls r
  | (.clear sid, _) :: calls, r => none :: runOnRedis store calls (clearSession store r sid).2

/-- The same calls on the agent model's store, where clearing a session drops its entry. -/
def runOnWorld : List SessionCall → World → List (Option (List Message))
  | [], _ => []
  | .save sid messages _ :: calls, w =>
    none :: runOnWorld calls (Agent.saveConversationHistory sid messages w)
  | .load sid :: calls, w => Agent.loadConversationHistory sid w :: runOnWorld calls w
  | .clear sid :: calls, w =>
    none :: runOnWorld calls { w with store := w.store.map (·.filter (·.1 != sid)) }

/-- **The Redis store refines the agent model's store.** Start from a server that agrees with
the agent model's store, with every session key alive until `start` plus the default time to
live. For every sequence of saves, loads and clears made within that time, every load
through `RedisSessionStore` answers what `loadConversationHistory` of the agent model
answers after the same calls. -/
theorem sessions_refine_agent_store {store : RedisSessionStore} (connected : store.connected = true)
    (start : Int) (calls : List (SessionCall × Int))
    (window : ∀ call ∈ calls,
      start ≤ call.2 ∧ call.2 < start + 1000 * store.ttlSeconds none)
    {w : World} {sessions : List (String × List Message)} (stored : w.store = some sessions)
    {r : Redis SessionData} (sim : Simulates sessions r (start + 1000 * store.ttlSeconds none)) :
    runOnRedis store calls r = runOnWorld (calls.map Prod.fst) w := by
  induction calls generalizing w sessions r with
  | nil => rfl
  | cons call calls ih =>
    obtain ⟨after, before⟩ := window call (.head _)
    have rest := fun c mem => window c (List.mem_cons_of_mem call mem)
    obtain ⟨c, now⟩ := call
    cases c with
    | save sid messages updatedAt =>
      have positive : 0 < store.ttlSeconds none := by simp only at after before; omega
      simp only [runOnRedis, runOnWorld, List.map_cons]
      congr 1
      exact ih rest (by simp [Agent.saveConversationHistory, stored])
        (sim.save connected positive (by simp only at after; omega) updatedAt sid messages)
    | load sid =>
      simp only [runOnRedis, runOnWorld, List.map_cons, Agent.loadConversationHistory, stored,
        Option.some_bind, sim.load connected before sid]
      exact congrArg _ (ih rest stored sim)
    | clear sid =>
      simp only [runOnRedis, runOnWorld, List.map_cons]
      congr 1
      exact ih rest (by simp [stored]) (sim.clear connected sid)

end Refinement

/-- A connected store with the default time to live. -/
def connectedStore : RedisSessionStore := (init).connect

/-- An agent whose session store is empty. -/
def emptyStoreWorld : World :=
  ⟨Resilience.CircuitBreaker.init "gemini_api" none, [], some [], []⟩

/-- A session saved, read, cleared and read again, a second apart. -/
def savedAndCleared : List (SessionCall × Int) :=
  [(.save "a" [⟨"user", "hi"⟩] (pyStr "2024-01-01T00:00:00"), 0), (.load "a", 1000),
   (.clear "a", 2000), (.load "a", 3000)]

theorem saved_session_reads_back :
    (∀ call ∈ savedAndCleared,
      0 ≤ call.2 ∧ call.2 < 0 + 1000 * connectedStore.ttlSeconds none) ∧
    runOnRedis connectedStore savedAndCleared ⟨[]⟩ =
      runOnWorld (savedAndCleared.map Prod.fst) emptyStoreWorld :=
  have window : ∀ call ∈ savedAndCleared,
      0 ≤ call.2 ∧ call.2 < 0 + 1000 * connectedStore.ttlSeconds none := by decide
  ⟨window, sessions_refine_agent_store rfl 0 savedAndCleared window rfl (Simulates.empty _)⟩

/-! ### Times to live under one second -/

theorem tdiv_nonpos_of_lt {t : Int} (short : t < 1000000) : t.tdiv 1000000 ≤ 0 := by
  rcases le_or_lt 0 t with nonneg | neg
  · rw [Int.tdiv_eq_zero_of_lt nonneg short]
  · have : 0 ≤ (-t).tdiv 1000000 := Int.tdiv_nonneg (by omega) (by decide)
    rw [← neg_neg t, Int.neg_tdiv]
    omega

/-- **Times to live under one second.** An explicit `ttl` that is not zero but shorter than
one second (or negative) makes `int(ttl.total_seconds())` at most zero: `set` then always
fails with Redis's error for `SETEX`, and `refresh_ttl` on a live session deletes it while
reporting `True`. -/
theorem subsecond_ttl {α : Type} {store : RedisSessionStore} (connected : store.connected = true)
    {t : Int} (nonzero : t ≠ 0) (short : t < 1000000) :
    (∀ (r : Redis α) (now : Int) (sid : String) (data : α),
      store.set r now sid data (some t) = .error .invalidExpireTime) ∧
    (∀ (r : Redis α) (now : Int) (sid : String), r.get now (getKey sid) ≠ none →
      store.refreshTtl r now sid (some t) = .ok (true, r.remove (getKey sid))) := by
  have expired : store.ttlSeconds (some t) ≤ 0 := by
    simp only [RedisSessionStore.ttlSeconds, nonzero, if_false]
    exact tdiv_nonpos_of_lt short
  constructor
  · intro r now sid data
    simp [RedisSessionStore.set, connected, Redis.setex, expired]
  · intro r now sid live
    obtain ⟨v, found⟩ := Option.ne_none_iff_exists'.mp live
    simp [RedisSessionStore.refreshTtl, connected, Redis.expire, found, expired]

/-- Half a second. -/
theorem half_second_ttl :
    (∀ (r : Redis SessionData) (now : Int) (sid : String) (data : SessionData),
      connectedStore.set r now sid data (some 500000) = .error .invalidExpireTime) ∧
    (∀ (r : Redis SessionData) (now : Int) (sid : String), r.get now (getKey sid) ≠ none →
      connectedStore.refreshTtl r now sid (some 500000) = .ok (true, r.remove (getKey sid))) :=
  subsecond_ttl rfl (by decide) (by decide)

end Runsheet.Session
