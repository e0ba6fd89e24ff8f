import Runsheet.Elasticsearch.Schema

/-!
# Schema validation at startup

When `ElasticsearchService.connect` has pinged the cluster, it runs `setup_indices` and then
`validate_index_schemas`. `setup_indices` creates each of the six indices that does not exist
yet, with its expected mapping; an exception is logged and skips that index.
`validate_index_schemas` runs `_validate_single_index_schema` on each index. That call reports
an index that does not exist, and an exception of the client, as a mismatch. Otherwise it
compares the index's mapping with the expected one through `_compare_properties`.
`get_schema_validation_summary` counts the indices that passed.

A client is modelled by its answers to `indices.exists` and `indices.get_mapping`, which
are the cluster's to give: the model does not take them from the mappings `setup_indices`
created, since the cluster may store a mapping otherwise than it was sent.

## Main results

* `validateIndexSchemas_valid`: for every behaviour of the client, `validate_index_schemas`
  reports valid, and the summary counts no invalid index, exactly when every expected index
  exists, its mapping reads without an exception, and conforms to the expected mapping.
-/

namespace Runsheet.Elasticsearch

open Runsheet.Python

/-! ### The expected mappings -/

/-- `{"type": t}`. -/
def typed (t : String) : FieldConfig := .mk (some (pyStr t)) none

/-- A `properties` dict, with its keys as the source writes them. -/
def props (ps : List (String × FieldConfig)) : Properties := ps.map fun (n, c) => (pyStr n, c)

/-- `{"properties": {...}}`: an object field. -/
def object (ps : List (String × FieldConfig)) : FieldConfig := .mk none (some (props ps))

/-- `_get_trucks_mapping()["mappings"]["properties"]`. -/
def getTrucksMapping : Properties := props [
  ("truck_id", typed "keyword"),
  ("plate_number", typed "keyword"),
  ("driver_id", typed "keyword"),
  ("driver_name", typed "text"),
  ("current_location", object [
    ("id", typed "keyword"),
    ("name", typed "text"),
    ("type", typed "keyword"),
    ("coordinates", typed "geo_point"),
    ("address", typed "text")]),
  ("destination", object [
    ("id", typed "keyword"),
    ("name", typed "text"),
    ("type", typed "keyword"),
    ("coordinates", typed "geo_point"),
    ("address", typed "text")]),
  ("route", object [
    ("id", typed "keyword"),
    ("distance", typed "float"),
    ("estimated_duration", typed "integer"),
    ("actual_duration", typed "integer")]),
  ("status", typed "keyword"),
  ("estimated_arrival", typed "date"),
  ("last_update", typed "date"),
  ("cargo", object [
    ("type", typed "keyword"),
    ("weight", typed "float"),
    ("volume", typed "float"),
    ("description", typed "semantic_text"),
    ("priority", typed "keyword")]),
  ("created_at", typed "date"),
  ("updated_at", typed "date")]

/-- `_get_locations_mapping()["mappings"]["properties"]`. -/
def getLocationsMapping : Properties := props [
  ("location_id", typed "keyword"),
  ("name", typed "text"),
  ("type", typed "keyword"),
  ("coordinates", typed "geo_point"),
  ("address", typed "semantic_text"),
  ("region", typed "keyword"),
  ("created_at", typed "date"),
  ("updated_at", typed "date")]

/-- `_get_orders_mapping()["mappings"]["properties"]`. -/
def getOrdersMapping : Properties := props [
  ("order_id", typed "keyword"),
  ("customer", typed "text"),
  ("customer_id", typed "keyword"),
  ("status", typed "keyword"),
  ("value", typed "float"),
  ("items", typed "semantic_text"),
  ("truck_id", typed "keyword"),
  ("region", typed "keyword"),
  ("priority", typed "keyword"),
  ("created_at", typed "date"),
  ("delivery_eta", typed "date"),
  ("delivered_at", typed "date"),
  ("updated_at", typed "date")]

/-- `_get_inventory_mapping()["mappings"]["properties"]`. -/
def getInventoryMapping : Properties := props [
  ("item_id", typed "keyword"),
  ("name", typed "semantic_text"),
  ("category", typed "keyword"),
  ("quantity", typed "integer"),
  ("unit", typed "keyword"),
  ("location", typed "text"),
  ("status", typed "keyword"),
  ("last_updated", typed "date"),
  ("created_at", typed "date"),
  ("updated_at", typed "date")]

/-- `_get_support_tickets_mapping()["mappings"]["properties"]`. -/
def getSupportTicketsMapping : Properties := props [
  ("ticket_id", typed "keyword"),
  ("customer", typed "text"),
  ("customer_id", typed "keyword"),
  ("issue", typed "semantic_text"),
  ("description", typed "semantic_text"),
  ("priority", typed "keyword"),
  ("status", typed "keyword"),
  ("assigned_to", typed "keyword"),
  ("related_order", typed "keyword"),
  ("created_at", typed "date"),
  ("updated_at", typed "date"),
  ("resolved_at", typed "date")]

/-- `_get_analytics_mapping()["mappings"]["properties"]`. -/
def getAnalyticsMapping : Properties := props [
  ("event_id", typed "keyword"),
  ("event_type", typed "keyword"),
  ("timestamp", typed "date"),
  ("truck_id", typed "keyword"),
  ("order_id", typed "keyword"),
  ("region", typed "keyword"),
  ("route_name", typed "text"),
  ("route_id", typed "keyword"),
  ("delay_cause", typed "keyword"),
  ("metrics", object [
    ("delivery_performance_pct", typed "float"),
    ("average_delay_minutes", typed "float"),
    ("fleet_utilization_pct", typed "float"),
    ("customer_satisfaction", typed "float"),
    ("on_time_percentage", typed "float"),
    ("delivery_time_minutes", typed "integer"),
    ("delay_minutes", typed "integer"),
    ("distance_km", typed "float"),
    ("fuel_consumed_liters", typed "float"),
    ("customer_rating", typed "float"),
    ("total_deliveries", typed "integer"),
    ("on_time_deliveries", typed "integer"),
    ("active_trucks", typed "integer"),
    ("completed_trips", typed "integer"),
    ("delay_incidents", typed "integer"),
    ("incident_count", typed "integer"),
    ("performance_pct", typed "float"),
    ("avg_delivery_time", typed "float"),
    ("percentage", typed "float"),
    ("avg_delay_minutes", typed "float"),
    ("planned_distance_km", typed "float"),
    ("estimated_duration_minutes", typed "integer"),
    ("expected_delay_duration", typed "integer")]),
  ("created_at", typed "date")]

/-- The dict of `setup_indices` and `validate_index_schemas`, in its order. -/
def expectedMappings : List (PyStr × Properties) :=
  [(pyStr "trucks", getTrucksMapping), (pyStr "locations", getLocationsMapping),
   (pyStr "orders", getOrdersMapping), (pyStr "inventory", getInventoryMapping),
   (pyStr "support_tickets", getSupportTicketsMapping),
   (pyStr "analytics_events", getAnalyticsMapping)]

/-! ### Validation -/

/-- What the client answers for an index. `indices.exists` gives a truth value. For
`indices.get_mapping`, the model gives the `properties` of
`response.get(index_name, {}).get("mappings", {})`, where a missing level reads as `{}`.
Either call may raise, and then gives the `str` of its exception. -/
structure MappingClient where
  indexExists : PyStr → Except PyStr Bool
  getMapping : PyStr → Except PyStr Properties

/-- The result dict `_validate_single_index_schema` starts from. -/
def SchemaResult.empty : SchemaResult := ⟨true, [], [], [], []⟩

/-- `_validate_single_index_schema(index_name, expected_mapping)`. -/
def validateSingleIndexSchema (client : MappingClient) (indexName : PyStr)
    (expected : Properties) : SchemaResult :=
  let failed (e : PyStr) : SchemaResult :=
    { SchemaResult.empty with
      valid := false
      mismatches := [pyStr "Failed to validate index '" ++ indexName ++ pyStr "': " ++ e] }
  match client.indexExists indexName with
  | .error e => failed e
  | .ok false =>
    { SchemaResult.empty with
      valid := false
      mismatches := [pyStr "Index '" ++ indexName ++ pyStr "' does not exist"] }
  | .ok true =>
    match client.getMapping indexName with
    | .error e => failed e
    | .ok actual => compareProperties expected actual SchemaResult.empty []

/-- The dict `validate_index_schemas` returns: `valid`, and the result of each index. -/
structure ValidationResults where
  valid : Bool
  indices : List (PyStr × SchemaResult)

/-- One turn of the loop of `validate_index_schemas`. -/
def validationStep (client : MappingClient) (results : ValidationResults)
    (index : PyStr × Properties) : ValidationResults :=
  let indexResult := validateSingleIndexSchema client index.1 index.2
  { valid := results.valid && indexResult.valid,
    indices := results.indices ++ [(index.1, indexResult)] }

/-- `validate_index_schemas()`. -/
def validateIndexSchemas (client : MappingClient) : ValidationResults :=
  expectedMappings.foldl (validationStep client) ⟨true, []⟩

/-- The dict `get_schema_validation_summary` returns. -/
structure SchemaValidationSummary where
  overallValid : Bool
  totalIndices : Nat
  validIndices : Nat
  invalidIndices : Nat
  totalMismatches : Nat
  details : List (PyStr × SchemaResult)

/-- `get_schema_validation_summary()`. -/
def getSchemaValidationSummary (client : MappingClient) : SchemaValidationSummary :=
  let validationResults := validateIndexSchemas client
  let totalIndices := validationResults.indices.length
  let validIndices := (validationResults.indices.filter (·.2.valid)).length
  { overallValid := validationResults.valid
    totalIndices := totalIndices
    validIndices := validIndices
    invalidIndices := totalIndices - validIndices
    totalMismatches := (validationResults.indices.map (·.2.mismatches.length)).sum
    details := validationResults.indices }

/-- The index exists, its mapping reads without an exception, and it conforms. -/
def IndexConforms (client : MappingClient) (indexName : PyStr) (expected : Properties) : Prop :=
  client.indexExists indexName = .ok true ∧
    ∃ actual, client.getMapping indexName = .ok actual ∧ Conforms expected actual

/-- One index passes exactly when it exists, its mapping reads, and it conforms. -/
theorem validateSingleIndexSchema_valid (client : MappingClient) (indexName : PyStr)
    (expected : Properties) :
    (validateSingleIndexSchema client indexName expected).valid = true ↔
      IndexConforms client indexName expected := by
  unfold validateSingleIndexSchema IndexConforms
  cases client.indexExists indexName with
  | error e => simp only [Bool.false_eq_true, reduceCtorEq, false_and]
  | ok found =>
    cases found with
    | false => simp only [Bool.false_eq_true, Except.ok.injEq, false_and]
    | true =>
      cases client.getMapping indexName with
      | error e => simp only [Bool.false_eq_true, reduceCtorEq, false_and, exists_false, and_false]
      | ok actual =>
        simp only [compareProperties, SchemaResult.empty, listExtraFields_valid,
          compareFields_valid, true_and, Except.ok.injEq, exists_eq_left']

theorem foldl_validationStep (client : MappingClient) :
    ∀ (indices : List (PyStr × Properties)) (results : ValidationResults),
      (indices.foldl (validationStep client) results).valid = true ↔
        results.valid = true ∧ ∀ m ∈ indices, IndexConforms client m.1 m.2
  | [], _ => by simp only [List.foldl_nil, List.not_mem_nil, IsEmpty.forall_iff, implies_true,
      and_true]
  | m :: rest, results => by
    rw [List.foldl_cons, foldl_validationStep client rest]
    simp only [validationStep, Bool.and_eq_true, validateSingleIndexSchema_valid, and_assoc,
      List.mem_cons, forall_eq_or_imp]

theorem foldl_validationStep_indices (client : MappingClient) :
    ∀ (indices : List (PyStr × Properties)) (results : ValidationResults),
      (indices.foldl (validationStep client) results).indices =
        results.indices ++ indices.map fun m => (m.1, validateSingleIndexSchema client m.1 m.2)
  | [], _ => by simp
  | m :: rest, results => by
    rw [List.foldl_cons, foldl_validationStep_indices client rest]
    simp [validationStep]

theorem sub_length_filter_eq_zero {α : Type} (l : List α) (p : α → Bool) :
    l.length - (l.filter p).length = 0 ↔ ∀ a ∈ l, p a = true := by
  have := List.length_filter_le p l
  rw [← List.filter_length_eq_length]
  omega

/-- **What validation at startup accepts.** For every behaviour of the client,
`validate_index_schemas` reports valid exactly when each of the six expected indices
exists, reading its mapping raises nothing, and its mapping conforms to the expected
one. `get_schema_validation_summary` then counts no invalid index, and only then. -/
theorem validateIndexSchemas_valid (client : MappingClient) :
    ((validateIndexSchemas client).valid = true ↔
      ∀ m ∈ expectedMappings, IndexConforms client m.1 m.2) ∧
    ((getSchemaValidationSummary client).invalidIndices = 0 ↔
      ∀ m ∈ expectedMappings, IndexConforms client m.1 m.2) := by
  refine ⟨by simp only [validateIndexSchemas, foldl_validationStep, true_and], ?_⟩
  simp only [getSchemaValidationSummary, validateIndexSchemas, foldl_validationStep_indices,
    List.nil_append, sub_length_filter_eq_zero, List.forall_mem_map,
    validateSingleIndexSchema_valid]

/-! ### `setup_indices` -/

/-- The indices of the cluster, each with the `properties` of its mapping. -/
abbrev Indices := List (PyStr × Properties)

/-- One turn of the loop of `setup_indices`: create the index when it does not exist. When a
call raises, the exception is logged and the index is left as it is. -/
def setupIndex (raises : PyStr → Bool) (c : Indices) (index : PyStr × Properties) : Indices :=
  if raises index.1 then c
  else if (List.lookup index.1 c).isSome then c
  else index :: c

/-- `setup_indices()`, with `raises` telling which turns of its loop raise. -/
def setupIndices (raises : PyStr → Bool) (c : Indices) : Indices :=
  expectedMappings.foldl (setupIndex raises) c

end Runsheet.Elasticsearch
