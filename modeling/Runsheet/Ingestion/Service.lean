import Runsheet.Ingestion.Sanitize
import Runsheet.Elasticsearch.Store

/-!
# `DataIngestionService`

`process_location_update` sanitizes the update, asks `validate_truck_exists`, writes the
truck's new location with `index_document("trucks", truck_id, location_data)` and a history
entry to `locations`. `process_batch_updates` runs it on each update of a batch and counts
the outcomes.

## Main results

* `processLocationUpdate_replaces_truck`: whenever an update succeeds, the truck document is
  `location_data` with its two stamps and nothing else;
* `processLocationUpdate_writes_only_admitted`: an update changes the cluster only after
  `validate_truck_exists` admitted it, that is when the search failed or found the truck;
* `historyId_injective`: the history id `f"{truck_id}_{timestamp}"` of an update is the
  same for two updates exactly when their truck ids and timestamps are;
* `location_update_erases_truck`: `index_document` replaces the truck document with
  `location_data`. One successful update therefore drops every other field of the truck,
  `truck_id` included, and the next update for the same truck is rejected as not found;
* `failed_search_admits_unknown_truck`: `validate_truck_exists` answers `True` when its
  search raises, so a truck that is not in the index gets a document written for it;
* `processBatchUpdates_accounting`: for every behaviour of `process_location_update`, the
  batch runs the updates once each, in order, and its counts add up.
-/

namespace Runsheet.Ingestion

open Runsheet.Python Runsheet.Elasticsearch

/-! ### `LocationUpdate` -/

/-- `not lo <= v <= hi`, the check of `validate_latitude`, `validate_longitude` and
`validate_heading`. -/
def checkRange (lo hi : Int) (message : String) (v : PyFloat) : Except PyStr PyFloat :=
  if (PyFloat.ofInt lo).le v && v.le (PyFloat.ofInt hi) then .ok v else .error (pyStr message)

def validateLatitude : PyFloat → Except PyStr PyFloat :=
  checkRange (-90) 90 "Latitude must be between -90 and 90"

def validateLongitude : PyFloat → Except PyStr PyFloat :=
  checkRange (-180) 180 "Longitude must be between -180 and 180"

def validateSpeed : Option PyFloat → Except PyStr (Option PyFloat)
  | none => .ok none
  | some v =>
    if v.lt (.ofInt 0) then .error (pyStr "Speed cannot be negative")
    else if (PyFloat.ofInt 300).lt v then
      .error (pyStr "Speed exceeds maximum reasonable value (300 km/h)")
    else .ok (some v)

def validateHeading : Option PyFloat → Except PyStr (Option PyFloat)
  | none => .ok none
  | some v => (checkRange 0 360 "Heading must be between 0 and 360 degrees" v).map some

def validateAccuracy : Option PyFloat → Except PyStr (Option PyFloat)
  | none => .ok none
  | some v => if v.lt (.ofInt 0) then .error (pyStr "Accuracy cannot be negative") else .ok (some v)

/-- A `LocationUpdate` as pydantic hands it over: every field validator accepted its field,
and `truck_id` is already the stripped id `validate_truck_id` returned. -/
structure LocationUpdate where
  truckId : PyStr
  latitude : PyFloat
  longitude : PyFloat
  timestamp : DateTime
  speedKmh : Option PyFloat := none
  heading : Option PyFloat := none
  accuracyMeters : Option PyFloat := none
  truckId_valid : validateTruckId truckId = .ok truckId
  latitude_valid : validateLatitude latitude = .ok latitude
  longitude_valid : validateLongitude longitude = .ok longitude
  speedKmh_valid : validateSpeed speedKmh = .ok speedKmh
  heading_valid : validateHeading heading = .ok heading
  accuracyMeters_valid : validateAccuracy accuracyMeters = .ok accuracyMeters

/-- `LocationUpdateResult`. -/
structure LocationUpdateResult where
  success : Bool
  truckId : PyStr
  message : Option PyStr := none

/-- `BatchUpdateResult`. -/
structure BatchUpdateResult where
  total : Nat
  successful : Nat
  failed : Nat
  results : List LocationUpdateResult

/-- The dict `sanitize_location_update` returns. -/
structure SanitizedUpdate where
  truckId : PyStr
  latitude : PyFloat
  longitude : PyFloat
  timestamp : PyStr
  speedKmh : Option PyFloat
  heading : Option PyFloat
  accuracyMeters : Option PyFloat

/-- A `float` or `None` in a document. -/
def optionalFloat : Option PyFloat → Json
  | some v => .float v
  | none => .null

/-- `location_data`: the new location of the truck. -/
def SanitizedUpdate.locationData (data : SanitizedUpdate) : Doc :=
  [(pyStr "current_location", .object [(pyStr "coordinates",
      .object [(pyStr "lat", .float data.latitude), (pyStr "lon", .float data.longitude)])]),
    (pyStr "last_update", .str data.timestamp)] ++
  (match data.speedKmh with
    | some v => [(pyStr "current_speed_kmh", .float v)]
    | none => []) ++
  match data.heading with
  | some v => [(pyStr "current_heading", .float v)]
  | none => []

/-- `location_history`: the entry for the `locations` index. -/
def SanitizedUpdate.locationHistory (data : SanitizedUpdate) : Doc :=
  [(pyStr "truck_id", .str data.truckId),
    (pyStr "coordinates",
      .object [(pyStr "lat", .float data.latitude), (pyStr "lon", .float data.longitude)]),
    (pyStr "timestamp", .str data.timestamp),
    (pyStr "speed_kmh", optionalFloat data.speedKmh),
    (pyStr "heading", optionalFloat data.heading),
    (pyStr "accuracy_meters", optionalFloat data.accuracyMeters)]

/-- `history_id = f"{truck_id}_{timestamp}"`. -/
def SanitizedUpdate.historyId (data : SanitizedUpdate) : PyStr :=
  data.truckId ++ pyStr "_" ++ data.timestamp

/-- `resource_not_found` for a truck id. -/
def truckNotFound (truckId : PyStr) : AppException :=
  { errorCode := .resourceNotFound
    message := pyStr "Truck with ID '" ++ truckId ++ pyStr "' not found"
    details := [(pyStr "truck_id", .str truckId)] }

section Database

variable (unicodeAlnum : Nat → Bool)

/-- `sanitize_location_update(update)`, or the message of the `ValueError` that
`sanitize_string` raises. -/
def sanitizeLocationUpdate (update : LocationUpdate) : Except PyStr SanitizedUpdate := do
  let truckId ← if update.truckId.isEmpty then pure update.truckId
    else sanitizeString unicodeAlnum update.truckId
  pure
    { truckId := truckId
      latitude := update.latitude
      longitude := update.longitude
      timestamp := update.timestamp.isoformat
      speedKmh := update.speedKmh
      heading := update.heading
      accuracyMeters := update.accuracyMeters }

/-- `validate_truck_exists(truck_id)`: any exception of the search counts as `True`. -/
def validateTruckExists (truckId : PyStr) (es : Service) : Bool × Service :=
  match es.searchTerm (pyStr "trucks") (pyStr "truck_id") truckId with
  | (.ok hits, es) => (decide (0 < hits), es)
  | (.error _, es) => (true, es)

/-- `process_location_update(update)`: the result, or the `AppException` it re-raises. The
`ValueError` of `sanitize_string` is the only other exception on this path. -/
def processLocationUpdate (update : LocationUpdate) (es : Service) :
    Except AppException LocationUpdateResult × Service :=
  match sanitizeLocationUpdate unicodeAlnum update with
  | .error message =>
    (.ok ⟨false, update.truckId, some (pyStr "Failed to process update: " ++ message)⟩, es)
  | .ok data =>
    match validateTruckExists data.truckId es with
    | (false, es) => (.error (truckNotFound data.truckId), es)
    | (true, es) =>
      match es.indexDocument (pyStr "trucks") data.truckId data.locationData with
      | (.error e, es) => (.error e, es)
      | (.ok (), es) =>
        match es.indexDocument (pyStr "locations") data.historyId data.locationHistory with
        | (.error e, es) => (.error e, es)
        | (.ok (), es) =>
          (.ok ⟨true, data.truckId, some (pyStr "Location update processed successfully")⟩, es)

/-! ### What an update writes -/

/-- `validate_truck_exists` reads the cluster and writes nothing. -/
theorem validateTruckExists_cluster (truckId : PyStr) (es : Service) :
    (validateTruckExists truckId es).2.cluster = es.cluster := by
  rw [← Service.searchTerm_cluster es (pyStr "trucks") (pyStr "truck_id") truckId]
  unfold validateTruckExists
  split <;> rename_i found <;> rw [found]

/-- `validate_truck_exists` answers `True` when its search fails, and otherwise when some
document of `trucks` has the id as its `truck_id`. -/
theorem validateTruckExists_iff (truckId : PyStr) (es : Service) :
    (validateTruckExists truckId es).1 = true ↔
      (∃ e, (es.searchTerm (pyStr "trucks") (pyStr "truck_id") truckId).1 = .error e) ∨
        0 < es.cluster.termHits (pyStr "trucks") (pyStr "truck_id") truckId := by
  have answer := Service.searchTerm_result es (pyStr "trucks") (pyStr "truck_id") truckId
  unfold validateTruckExists
  cases found : es.searchTerm (pyStr "trucks") (pyStr "truck_id") truckId with
  | mk result es' =>
    rw [found] at answer
    cases result with
    | ok hits =>
      obtain rfl : hits = _ := by simpa using answer
      simp
    | error e => simp

/-- `location_data` carries neither of the stamps that `_do_index` writes. -/
theorem SanitizedUpdate.locationData_unstamped (data : SanitizedUpdate) :
    data.locationData.lookup (pyStr "updated_at") = none ∧
      data.locationData.lookup (pyStr "created_at") = none := by
  unfold SanitizedUpdate.locationData
  cases data.speedKmh <;> cases data.heading <;> exact ⟨rfl, rfl⟩

/-- **An update writes only what the existence check admitted.** For every update and every
state of the cluster and its breaker, `process_location_update` leaves the cluster as it was,
or the update was sanitized and `validate_truck_exists` admitted its id: the search failed,
or a `trucks` document has that `truck_id`. -/
theorem processLocationUpdate_writes_only_admitted (update : LocationUpdate) (es : Service) :
    (processLocationUpdate unicodeAlnum update es).2.cluster = es.cluster ∨
      ∃ data, sanitizeLocationUpdate unicodeAlnum update = .ok data ∧
        ((∃ e, (es.searchTerm (pyStr "trucks") (pyStr "truck_id") data.truckId).1 = .error e) ∨
          0 < es.cluster.termHits (pyStr "trucks") (pyStr "truck_id") data.truckId) := by
  unfold processLocationUpdate
  split
  · exact .inl rfl
  · rename_i data sanitized
    split
    · rename_i es₁ rejected
      left
      rw [← validateTruckExists_cluster data.truckId es, rejected]
    · rename_i es₁ admitted
      exact .inr ⟨data, sanitized, (validateTruckExists_iff data.truckId es).mp (by rw [admitted])⟩

/-- **A successful update replaces the truck document.** Whenever `process_location_update`
returns a successful result, the `trucks` document under the sanitized id is `location_data`
with its two stamps, and nothing else: no field of the document stored before survives. -/
theorem processLocationUpdate_replaces_truck (update : LocationUpdate) (es : Service)
    {r : LocationUpdateResult} (returned : (processLocationUpdate unicodeAlnum update es).1 = .ok r)
    (succeeded : r.success = true) :
    ∃ data updatedAt createdAt, sanitizeLocationUpdate unicodeAlnum update = .ok data ∧
      (processLocationUpdate unicodeAlnum update es).2.cluster.get (pyStr "trucks") data.truckId =
        some (data.locationData ++
          [(pyStr "updated_at", .str updatedAt), (pyStr "created_at", .str createdAt)]) := by
  unfold processLocationUpdate at returned ⊢
  split at returned
  · cases returned
    cases succeeded
  · rename_i data sanitized
    split at returned
    · cases returned
    · rename_i es₁ admitted
      split at returned
      · cases returned
      · rename_i es₂ stored
        split at returned
        · cases returned
        · rename_i es₃ logged
          have unstamped := data.locationData_unstamped
          refine ⟨data, (es₁.ticks es₁.calls).updatedAt, (es₁.ticks es₁.calls).createdAt,
            sanitized, ?_⟩
          rw [Service.indexDocument_ok logged, Service.doIndex_get_of_index_ne _ _ _ _ _ (by decide),
            Service.indexDocument_ok stored,
            Service.doIndex_of_unstamped _ _ unstamped.1 unstamped.2, Cluster.get_put_self]

end Database

/-! ### History ids -/

/-- A separator that neither tail holds splits a text in one place only. -/
theorem append_cons_inj_of_not_mem_tails {sep : Nat} :
    ∀ {a b x y : PyStr}, sep ∉ x → sep ∉ y → a ++ sep :: x = b ++ sep :: y → a = b ∧ x = y
  | [], [], _, _, _, _, h => ⟨rfl, (List.cons.inj h).2⟩
  | [], _ :: b, _, y, hx, _, h => by
    obtain ⟨-, rfl⟩ := List.cons.inj h
    exact absurd (List.mem_append_right b (List.mem_cons_self sep y)) hx
  | _ :: a, [], x, _, _, hy, h => by
    obtain ⟨-, rfl⟩ := List.cons.inj h
    exact absurd (List.mem_append_right a (List.mem_cons_self sep x)) hy
  | _ :: _, _ :: _, _, _, hx, hy, h => by
    obtain ⟨rfl, rest⟩ := List.cons.inj h
    obtain ⟨rfl, rfl⟩ := append_cons_inj_of_not_mem_tails hx hy rest
    exact ⟨rfl, rfl⟩

theorem underscore_not_mem_isoformat (d : DateTime) : '_'.toNat ∉ d.isoformat :=
  fun mem => absurd (isoformat_chars d mem) (by decide)

/-- **History ids are unique per truck and timestamp.** For every two sanitized updates whose
timestamps are `isoformat()` texts, whatever their truck ids hold, `_` included:
`f"{truck_id}_{timestamp}"` is the same for both exactly when the truck ids and the
timestamps are. The last `_` of a history id is the one before the timestamp, since
`isoformat` writes none. So `process_location_update` never stores the history entries of
two different pairs under one doc id of `locations`. -/
theorem historyId_injective {d₁ d₂ : SanitizedUpdate} {t₁ t₂ : DateTime}
    (stamped₁ : d₁.timestamp = t₁.isoformat) (stamped₂ : d₂.timestamp = t₂.isoformat) :
    d₁.historyId = d₂.historyId ↔ d₁.truckId = d₂.truckId ∧ d₁.timestamp = d₂.timestamp := by
  have separator : ∀ x, pyStr "_" ++ x = '_'.toNat :: x := fun _ => rfl
  constructor
  · intro same
    simp only [SanitizedUpdate.historyId, List.append_assoc, separator, stamped₁, stamped₂] at same
    rw [stamped₁, stamped₂]
    exact append_cons_inj_of_not_mem_tails (underscore_not_mem_isoformat t₁)
      (underscore_not_mem_isoformat t₂) same
  · rintro ⟨sameTruck, sameTime⟩
    rw [SanitizedUpdate.historyId, SanitizedUpdate.historyId, sameTruck, sameTime]

theorem underscore_truck_ids_apart :
    let t : DateTime := ⟨2024, 1, 15, 10, 30, 0, 0, some 0⟩
    let d₁ : SanitizedUpdate := ⟨pyStr "TRK_1", .finite 0 0, .finite 0 0, t.isoformat, none, none, none⟩
    let d₂ : SanitizedUpdate := ⟨pyStr "TRK", .finite 0 0, .finite 0 0, t.isoformat, none, none, none⟩
    d₁.timestamp = t.isoformat ∧ d₂.timestamp = t.isoformat ∧
      (d₁.historyId = d₂.historyId ↔ d₁.truckId = d₂.truckId ∧ d₁.timestamp = d₂.timestamp) :=
  ⟨rfl, rfl, historyId_injective rfl rfl⟩

/-! ### An update replaces the truck document -/

/-- 37.5° N, 122.25° W, at 10:30 UTC on 15 January 2024, at 55 km/h. -/
def depotUpdate : LocationUpdate where
  truckId := pyStr "TRK-001"
  latitude := .finite 375 (-1)
  longitude := .finite (-12225) (-2)
  timestamp := ⟨2024, 1, 15, 10, 30, 0, 0, some 0⟩
  speedKmh := some (.finite 55 0)
  heading := none
  accuracyMeters := none
  truckId_valid := by rfl
  latitude_valid := by rfl
  longitude_valid := by rfl
  speedKmh_valid := by rfl
  heading_valid := by rfl
  accuracyMeters_valid := by rfl

/-- A registered truck. -/
def truckDocument : Doc :=
  [(pyStr "truck_id", .str (pyStr "TRK-001")), (pyStr "plate_number", .str (pyStr "7ABC123")),
    (pyStr "driver_name", .str (pyStr "Ana Ruiz")), (pyStr "status", .str (pyStr "in_transit")),
    (pyStr "created_at", .str (pyStr "2024-01-01T08:00:00"))]

/-- The cluster holds the truck, and every client call succeeds. -/
def depotService : Service :=
  Service.init [(pyStr "trucks", pyStr "TRK-001", truckDocument)] fun n =>
    { now := n, updatedAt := pyStr "2024-01-15T10:30:01", createdAt := pyStr "2024-01-15T10:30:01" }

theorem depot_update_replaces_truck :
    (processLocationUpdate (fun _ => false) depotUpdate depotService).1 =
        .ok ⟨true, pyStr "TRK-001", some (pyStr "Location update processed successfully")⟩ ∧
      (⟨true, pyStr "TRK-001", some (pyStr "Location update processed successfully")⟩ :
        LocationUpdateResult).success = true ∧
      ∃ data updatedAt createdAt,
        sanitizeLocationUpdate (fun _ => false) depotUpdate = .ok data ∧
        (processLocationUpdate (fun _ => false) depotUpdate depotService).2.cluster.get
            (pyStr "trucks") data.truckId =
          some (data.locationData ++
            [(pyStr "updated_at", .str updatedAt), (pyStr "created_at", .str createdAt)]) :=
  ⟨rfl, rfl, processLocationUpdate_replaces_truck (fun _ => false) depotUpdate depotService rfl rfl⟩

theorem location_update_erases_truck (unicodeAlnum : Nat → Bool) :
    (processLocationUpdate unicodeAlnum depotUpdate depotService).1 =
      .ok ⟨true, pyStr "TRK-001", some (pyStr "Location update processed successfully")⟩ ∧
    (processLocationUpdate unicodeAlnum depotUpdate depotService).2.cluster.get (pyStr "trucks")
      (pyStr "TRK-001") =
      some [(pyStr "current_location", .object [(pyStr "coordinates",
          .object [(pyStr "lat", .float (.finite 375 (-1))),
            (pyStr "lon", .float (.finite (-12225) (-2)))])]),
        (pyStr "last_update", .str (pyStr "2024-01-15T10:30:00+00:00")),
        (pyStr "current_speed_kmh", .float (.finite 55 0)),
        (pyStr "updated_at", .str (pyStr "2024-01-15T10:30:01")),
        (pyStr "created_at", .str (pyStr "2024-01-15T10:30:01"))] ∧
    (processLocationUpdate unicodeAlnum depotUpdate
      (processLocationUpdate unicodeAlnum depotUpdate depotService).2).1 =
      .error (truckNotFound (pyStr "TRK-001")) :=
  ⟨rfl, rfl, rfl⟩

/-! ### A failed search counts as an existing truck -/

/-- A truck no index knows. -/
def unknownUpdate : LocationUpdate where
  truckId := pyStr "TRK-404"
  latitude := .finite 0 0
  longitude := .finite 0 0
  timestamp := ⟨2024, 1, 15, 10, 30, 0, 0, some 0⟩
  speedKmh := none
  heading := none
  accuracyMeters := none
  truckId_valid := by rfl
  latitude_valid := by rfl
  longitude_valid := by rfl
  speedKmh_valid := by rfl
  heading_valid := by rfl
  accuracyMeters_valid := by rfl

/-- An empty cluster whose first client call, the search, times out. -/
def timeoutService : Service :=
  Service.init [] fun n =>
    if n = 0 then { now := 0, fault := some (pyStr "Connection timed out") }
    else { now := n, updatedAt := pyStr "2024-01-15T10:30:01", createdAt := pyStr "2024-01-15T10:30:01" }

theorem failed_search_admits_unknown_truck (unicodeAlnum : Nat → Bool) :
    timeoutService.cluster.termHits (pyStr "trucks") (pyStr "truck_id") (pyStr "TRK-404") = 0 ∧
    (processLocationUpdate unicodeAlnum unknownUpdate timeoutService).1 =
      .ok ⟨true, pyStr "TRK-404", some (pyStr "Location update processed successfully")⟩ ∧
    ((processLocationUpdate unicodeAlnum unknownUpdate timeoutService).2.cluster.get
      (pyStr "trucks") (pyStr "TRK-404")).isSome = true :=
  ⟨rfl, rfl, rfl⟩

/-! ### `process_batch_updates` -/

/-- How one awaited `process_location_update(update)` ended. -/
inductive UpdateOutcome where
  | returns (result : LocationUpdateResult)
  | raisesApp (e : AppException)
  /-- Any other exception, with `str(e)`. -/
  | raises (message : PyStr)

section Batch

variable {σ : Type} (process : LocationUpdate → σ → UpdateOutcome × σ)

/-- The `for` loop of `process_batch_updates`, with its `results`, `successful` and
`failed`. -/
def batchLoop : List LocationUpdate → List LocationUpdateResult → Nat → Nat → σ →
    List LocationUpdateResult × Nat × Nat × σ
  | [], results, successful, failed, s => (results, successful, failed, s)
  | update :: rest, results, successful, failed, s =>
    match process update s with
    | (.returns result, s) =>
      if result.success then batchLoop rest (results ++ [result]) (successful + 1) failed s
      else batchLoop rest (results ++ [result]) successful (failed + 1) s
    | (.raisesApp e, s) =>
      batchLoop rest (results ++ [⟨false, update.truckId, some e.message⟩]) successful (failed + 1) s
    | (.raises message, s) =>
      batchLoop rest (results ++ [⟨false, update.truckId, some message⟩]) successful (failed + 1) s

/-- `process_batch_updates(updates)`, for a `process_location_update` that behaves as
`process`. -/
def processBatchUpdates (updates : List LocationUpdate) (s : σ) : BatchUpdateResult × σ :=
  let (results, successful, failed, s) := batchLoop process updates [] 0 0 s
  ({ total := updates.length, successful, failed, results }, s)

/-- The updates run one after another from `s`: the outcome of each, and the state after
the last. -/
def runAll : List LocationUpdate → σ → List UpdateOutcome × σ
  | [], s => ([], s)
  | update :: rest, s =>
    let first := process update s
    let after := runAll rest first.2
    (first.1 :: after.1, after.2)

/-- The entry of `results` for an update that ended with `outcome`: the result it returned,
or a failure with the update's `truck_id` and the exception's message. -/
def recorded (update : LocationUpdate) : UpdateOutcome → LocationUpdateResult
  | .returns result => result
  | .raisesApp e => ⟨false, update.truckId, some e.message⟩
  | .raises message => ⟨false, update.truckId, some message⟩

theorem runAll_length (updates : List LocationUpdate) (s : σ) :
    (runAll process updates s).1.length = updates.length := by
  induction updates generalizing s with
  | nil => rfl
  | cons update rest ih => simp [runAll, ih]

/-- The loop appends the recorded outcomes to `results` and counts them. -/
theorem batchLoop_eq (updates : List LocationUpdate) (results : List LocationUpdateResult)
    (successful failed : Nat) (s : σ) :
    batchLoop process updates results successful failed s =
      (results ++ List.zipWith recorded updates (runAll process updates s).1,
        successful +
          ((List.zipWith recorded updates (runAll process updates s).1).filter (·.success)).length,
        failed +
          ((List.zipWith recorded updates (runAll process updates s).1).filter (!·.success)).length,
        (runAll process updates s).2) := by
  induction updates generalizing results successful failed s with
  | nil => simp [batchLoop, runAll]
  | cons update rest ih =>
    simp only [batchLoop, runAll]
    rcases process update s with ⟨outcome, s'⟩
    cases outcome with
    | returns result =>
      cases success : result.success <;>
        simp [ih, recorded, success, List.filter_cons] <;> omega
    | raisesApp e => simp [ih, recorded, List.filter_cons]; omega
    | raises message => simp [ih, recorded, List.filter_cons]; omega

end Batch

/-- **Batch accounting.** For every behaviour of `process_location_update`, the batch runs
each update once, in input order, threading the state through them. `results[i]` is what
`updates[i]` ended with, and `total = len(updates) = len(results) = successful + failed`,
with `successful` the number of results that succeeded. -/
theorem processBatchUpdates_accounting {σ : Type} (process : LocationUpdate → σ → UpdateOutcome × σ)
    (updates : List LocationUpdate) (s : σ) :
    (processBatchUpdates process updates s).1.results =
      List.zipWith recorded updates (runAll process updates s).1 ∧
    (processBatchUpdates process updates s).2 = (runAll process updates s).2 ∧
    (processBatchUpdates process updates s).1.total = updates.length ∧
    (processBatchUpdates process updates s).1.results.length = updates.length ∧
    (processBatchUpdates process updates s).1.successful +
      (processBatchUpdates process updates s).1.failed = updates.length ∧
    (processBatchUpdates process updates s).1.successful =
      ((processBatchUpdates process updates s).1.results.filter (·.success)).length := by
  have lengths : (List.zipWith recorded updates (runAll process updates s).1).length =
      updates.length := by simp [runAll_length]
  dsimp only [processBatchUpdates]
  rw [batchLoop_eq, List.nil_append, Nat.zero_add, Nat.zero_add]
  refine ⟨rfl, rfl, rfl, lengths, ?_, rfl⟩
  rw [← List.length_eq_length_filter_add, lengths]

end Runsheet.Ingestion
