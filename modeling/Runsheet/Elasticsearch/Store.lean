import Runsheet.Python.Builtins
import Runsheet.Agent.Orchestrator

/-!
# `ElasticsearchService`: documents behind a circuit breaker

The cluster holds JSON documents by index and id. `client.index` replaces the document
under its id, and a `term` query counts the documents whose field holds the given string.
Every operation of `ElasticsearchService` runs its client call through the service's
`CircuitBreaker("elasticsearch")` and maps what escapes to an `AppException`:
`CircuitOpenException` to `CIRCUIT_OPEN` and any other exception to
`ELASTICSEARCH_UNAVAILABLE`.

The environment is a sequence of `Tick`s, one per client call. A tick gives the clock
readings of the breaker, the `datetime.now()` texts that `_do_index` reads, and, when the
client raises, the text of its exception. A client call that raises writes nothing.
-/

namespace Runsheet.Elasticsearch

open Runsheet.Python Runsheet.Resilience

/-- A JSON value as the Python client sends and returns it. -/
inductive Json where
  | null
  | bool (b : Bool)
  | int (n : Int)
  | float (x : PyFloat)
  | str (s : PyStr)
  | object (fields : List (PyStr × Json))

/-- A JSON object, as a Python dict: its fields in insertion order. -/
abbrev Doc := List (PyStr × Json)

/-- Whether the value is the string `value`. -/
def Json.isStr (value : PyStr) : Json → Bool
  | .str s => s == value
  | _ => false

namespace Doc

/-- `d.get(key)`. -/
def lookup (d : Doc) (key : PyStr) : Option Json :=
  (d.find? (·.1 == key)).map (·.2)

/-- `d[key] = value`: in place when `key` is already there, at the end otherwise. -/
def set (d : Doc) (key : PyStr) (value : Json) : Doc :=
  if d.any (·.1 == key) then d.map fun field => if field.1 == key then (key, value) else field
  else d ++ [(key, value)]

theorem set_of_lookup {d : Doc} {key : PyStr} (absent : d.lookup key = none) (value : Json) :
    d.set key value = d ++ [(key, value)] := by
  have none : d.any (·.1 == key) = false := by simpa [lookup] using absent
  rw [set, if_neg (by simp [none])]

theorem lookup_append_of_ne (d : Doc) {key key' : PyStr} (value : Json) (ne : key ≠ key') :
    (d ++ [(key, value)]).lookup key' = d.lookup key' := by
  simp [lookup, List.find?_append, ne]

end Doc

/-- The documents of the cluster: index, id and source. -/
abbrev Cluster := List (PyStr × PyStr × Doc)

namespace Cluster

/-- The source stored under `index`/`id`. -/
def get (c : Cluster) (index id : PyStr) : Option Doc :=
  (c.find? fun e => e.1 == index && e.2.1 == id).map (·.2.2)

/-- `client.index(index=index, id=id, body=doc)`: the document replaces whatever was stored
under the id. -/
def put (c : Cluster) (index id : PyStr) (doc : Doc) : Cluster :=
  (index, id, doc) :: c.filter fun e => !(e.1 == index && e.2.1 == id)

/-- `hits.total.value` of a `term` query for `value` on `field` in `index`. -/
def termHits (c : Cluster) (index field value : PyStr) : Nat :=
  (c.filter fun e => e.1 == index && ((e.2.2.lookup field).map (Json.isStr value)).getD false).length

theorem get_put_self (c : Cluster) (index id : PyStr) (doc : Doc) :
    (c.put index id doc).get index id = some doc := by
  simp [get, put]

/-- A write to one index leaves every document of another as it was. -/
theorem get_put_of_index_ne (c : Cluster) {index index' : PyStr} (id id' : PyStr) (doc : Doc)
    (ne : index ≠ index') : (c.put index id doc).get index' id' = c.get index' id' := by
  have skip : (index == index' && id == id') = false := by simp [ne]
  simp only [get, put, List.find?_cons, skip, List.find?_filter]
  congr 2
  funext e
  by_cases same : e.1 = index' <;> simp [same, Ne.symm ne, Bool.beq_eq_decide_eq]

end Cluster

/-- `ErrorCode`, the members that these paths raise. -/
inductive ErrorCode where
  | resourceNotFound
  | elasticsearchUnavailable
  | circuitOpen
  deriving DecidableEq, Repr

/-- `AppException(error_code, message, details)`. -/
structure AppException where
  errorCode : ErrorCode
  message : PyStr
  details : Doc

/-- What one client call meets. -/
structure Tick where
  /-- The breaker's reading in `_should_attempt_reset`, in microseconds. -/
  now : Int
  /-- Its reading in `_get_time_until_retry`, when it turns the call away. -/
  reread : Int := now
  /-- Its reading in `_on_failure`, after the client raised. -/
  failedAt : Int := now
  /-- `datetime.now().isoformat()` for `updated_at`. -/
  updatedAt : PyStr := []
  /-- `datetime.now().isoformat()` for `created_at`. -/
  createdAt : PyStr := []
  /-- `str()` of the exception the client raises, if it raises. -/
  fault : Option PyStr := none

/-- An `ElasticsearchService`: its breaker, the cluster, what each client call meets, and
how many calls were made. -/
structure Service where
  breaker : CircuitBreaker
  cluster : Cluster
  ticks : Nat → Tick
  calls : Nat

namespace Service

/-- `ElasticsearchService.__init__`: a `CircuitBreaker("elasticsearch")` with threshold 3. -/
def init (cluster : Cluster) (ticks : Nat → Tick) : Service :=
  ⟨CircuitBreaker.init "elasticsearch" (some { failureThreshold := 3 }), cluster, ticks, 0⟩

/-- `_handle_circuit_breaker_exception(exc)`. -/
def handleCircuitBreakerException (exc : CircuitOpenException) : AppException :=
  { errorCode := .circuitOpen
    message := pyStr ("Elasticsearch service temporarily unavailable. Circuit breaker '" ++
      exc.circuitName ++ "' is open.")
    details := [(pyStr "circuit_name", .str (pyStr exc.circuitName)),
      (pyStr "time_until_retry_seconds",
        match Agent.wholeSeconds exc.timeUntilRetry with
        | some s => .int s
        | none => .null),
      (pyStr "service", .str (pyStr "elasticsearch"))] }

/-- `_handle_elasticsearch_error(operation, error)`. -/
def handleElasticsearchError (operation error : PyStr) : AppException :=
  { errorCode := .elasticsearchUnavailable
    message := pyStr "Database operation failed: " ++ operation
    details := [(pyStr "operation", .str operation), (pyStr "error", .str error)] }

/-- The `try` of an operation named `operation`: `await self._circuit_breaker.execute(func)`
with no other caller in between, where `func` runs `client` on the cluster. Then the two
`except` clauses. -/
def guarded {α : Type} (es : Service) (operation : PyStr) (client : Tick → Cluster → Cluster × α) :
    Except AppException α × Service :=
  let tick := es.ticks es.calls
  let es := { es with calls := es.calls + 1 }
  match es.breaker.admission tick.now tick.reread with
  | (b, .rejected e) => (.error (handleCircuitBreakerException e), { es with breaker := b })
  | (b, .admitted) =>
    match tick.fault with
    | some error =>
      (.error (handleElasticsearchError operation error), { es with breaker := b.onFailure tick.failedAt })
    | none =>
      let result := client tick es.cluster
      (.ok result.2, { es with breaker := b.onSuccess, cluster := result.1 })

/-- `_do_index()` of `index_document`: it stamps `updated_at`, and also `created_at` when
the document has none, before `client.index` stores it. -/
def doIndex (index docId : PyStr) (document : Doc) (tick : Tick) (cluster : Cluster) :
    Cluster × Unit :=
  let document := document.set (pyStr "updated_at") (.str tick.updatedAt)
  let document :=
    if (document.lookup (pyStr "created_at")).isSome then document
    else document.set (pyStr "created_at") (.str tick.createdAt)
  (cluster.put index docId document, ())

/-- `index_document(index, doc_id, document)`. -/
def indexDocument (es : Service) (index docId : PyStr) (document : Doc) :
    Except AppException Unit × Service :=
  guarded es (pyStr "index_document(" ++ index ++ pyStr ")") (doIndex index docId document)

/-- `search_documents(index, {"query": {"term": {field: value}}, "size": 1}, size=1)`, up to
what its caller reads of the response: `hits.total.value`. -/
def searchTerm (es : Service) (index field value : PyStr) : Except AppException Nat × Service :=
  guarded es (pyStr "search_documents(" ++ index ++ pyStr ")") fun _ cluster =>
    (cluster, cluster.termHits index field value)

/-! ### What an operation can do to the cluster -/

/-- An operation either fails and leaves the cluster as it was, or returns the client's
response with the cluster the client made. -/
theorem guarded_cases {α : Type} (es : Service) (operation : PyStr)
    (client : Tick → Cluster → Cluster × α) :
    ((∃ e, (guarded es operation client).1 = .error e) ∧
      (guarded es operation client).2.cluster = es.cluster) ∨
    ((guarded es operation client).1 = .ok (client (es.ticks es.calls) es.cluster).2 ∧
      (guarded es operation client).2.cluster = (client (es.ticks es.calls) es.cluster).1) := by
  dsimp only [guarded]
  split
  · exact .inl ⟨⟨_, rfl⟩, rfl⟩
  · split
    · exact .inl ⟨⟨_, rfl⟩, rfl⟩
    · exact .inr ⟨rfl, rfl⟩

/-- An index call that succeeds leaves the cluster as `_do_index` made it. -/
theorem indexDocument_ok {es es' : Service} {index docId : PyStr} {document : Doc}
    (stored : es.indexDocument index docId document = (.ok (), es')) :
    es'.cluster = (doIndex index docId document (es.ticks es.calls) es.cluster).1 := by
  rcases guarded_cases es (pyStr "index_document(" ++ index ++ pyStr ")") (doIndex index docId document)
    with ⟨⟨e, failed⟩, -⟩ | ⟨-, written⟩
  · exact absurd (congrArg Prod.fst stored) (by rw [indexDocument, failed]; nofun)
  · rw [← written]
    exact congrArg (·.2.cluster) stored.symm

/-- A document with neither stamp gets both, at its end, and replaces what was stored. -/
theorem doIndex_of_unstamped (index docId : PyStr) {document : Doc}
    (noUpdated : document.lookup (pyStr "updated_at") = none)
    (noCreated : document.lookup (pyStr "created_at") = none) (tick : Tick) (cluster : Cluster) :
    (doIndex index docId document tick cluster).1 = cluster.put index docId
      (document ++ [(pyStr "updated_at", .str tick.updatedAt), (pyStr "created_at", .str tick.createdAt)]) := by
  have stillNoCreated :
      (document ++ [(pyStr "updated_at", Json.str tick.updatedAt)]).lookup (pyStr "created_at") = none := by
    rw [Doc.lookup_append_of_ne _ _ (by decide), noCreated]
  simp only [doIndex, Doc.set_of_lookup noUpdated, stillNoCreated, Option.isSome_none,
    Bool.false_eq_true, if_false, Doc.set_of_lookup stillNoCreated, List.append_assoc,
    List.singleton_append]

theorem doIndex_get_of_index_ne {index index' : PyStr} (docId id : PyStr) (document : Doc)
    (tick : Tick) (cluster : Cluster) (ne : index ≠ index') :
    (doIndex index docId document tick cluster).1.get index' id = cluster.get index' id :=
  Cluster.get_put_of_index_ne _ _ _ _ ne

/-- A search answers the hit count of the cluster, or fails. -/
theorem searchTerm_result (es : Service) (index field value : PyStr) :
    (es.searchTerm index field value).1 = .ok (es.cluster.termHits index field value) ∨
      ∃ e, (es.searchTerm index field value).1 = .error e := by
  rcases guarded_cases es (pyStr "search_documents(" ++ index ++ pyStr ")")
    (fun _ cluster => (cluster, cluster.termHits index field value)) with ⟨failed, -⟩ | ⟨answered, -⟩
  · exact .inr failed
  · exact .inl answered

/-- A search leaves the cluster as it was. -/
theorem searchTerm_cluster (es : Service) (index field value : PyStr) :
    (es.searchTerm index field value).2.cluster = es.cluster := by
  rcases guarded_cases es (pyStr "search_documents(" ++ index ++ pyStr ")")
    (fun _ cluster => (cluster, cluster.termHits index field value)) with ⟨-, same⟩ | ⟨-, written⟩
  · exact same
  · exact written

end Service

end Runsheet.Elasticsearch
