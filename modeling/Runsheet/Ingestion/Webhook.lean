import Runsheet.Ingestion.Service

/-!
# The location webhook

`location_webhook` of `main.py` runs `process_location_update` on a `LocationUpdate` that
FastAPI has already validated, and turns its outcome into a response. A successful result is
answered with 200. A result that failed without raising is raised as an `HTTPException(500)`
inside the `try`, and its last `except Exception` raises a new `HTTPException(500)`. An
`AppException` is re-raised to `handle_app_exception`, which answers with the status that
`ERROR_CODE_STATUS_MAP` gives its code. Its `except ValidationError` is never reached: nothing
in the `try` raises one, since `process_location_update` turns every other exception into a
failed result.

## Main results

- `processLocationUpdate_cases`: the four ways an update ends, each with what decided it.
- `locationWebhook_status`: the webhook answers 500 exactly when `sanitize_string` rejected the
  truck id, 404 exactly when `validate_truck_exists` rejected it, 503 exactly when an
  Elasticsearch write failed, and 200 otherwise; it never answers 400.
-/

namespace Runsheet.Ingestion

open Runsheet.Python Runsheet.Elasticsearch

/-! ### Error responses -/

/-- `ERROR_CODE_STATUS_MAP.get(error_code, 500)`, for the codes these paths raise. -/
def getDefaultStatusCode : ErrorCode → Nat
  | .resourceNotFound => 404
  | .elasticsearchUnavailable => 503
  | .circuitOpen => 503

/-- `error_code.value`. -/
def errorCodeValue : ErrorCode → PyStr
  | .resourceNotFound => pyStr "RESOURCE_NOT_FOUND"
  | .elasticsearchUnavailable => pyStr "ELASTICSEARCH_UNAVAILABLE"
  | .circuitOpen => pyStr "CIRCUIT_OPEN"

/-- `handle_app_exception(request, exc)`: the status code and the body. The factories that
build these exceptions pass no `status_code`, so `exc.status_code` is the code's default. -/
def handleAppException (requestId : PyStr) (e : AppException) : Nat × Doc :=
  (getDefaultStatusCode e.errorCode,
    [(pyStr "error_code", .str (errorCodeValue e.errorCode)), (pyStr "message", .str e.message),
      (pyStr "details", .object e.details), (pyStr "request_id", .str requestId)])

/-- A failure of an Elasticsearch call is a circuit that is open or an unavailable cluster. -/
theorem Service.guarded_error_code {α : Type} {es : Service} {operation : PyStr}
    {client : Tick → Cluster → Cluster × α} {e : AppException}
    (failed : (Service.guarded es operation client).1 = .error e) :
    e.errorCode = .circuitOpen ∨ e.errorCode = .elasticsearchUnavailable := by
  simp only [Service.guarded] at failed
  split at failed
  · cases failed
    exact .inl rfl
  · split at failed
    · cases failed
      exact .inr rfl
    · cases failed

/-! ### The endpoint -/

/-- What `location_webhook` answers. -/
inductive WebhookResponse where
  /-- The success dict, answered with 200; its `timestamp` is the clock's and is left out. -/
  | ok (truckId : PyStr) (message : Option PyStr)
  /-- An `AppException`, answered by `handle_app_exception`. -/
  | appException (e : AppException)
  /-- The `HTTPException(status_code=500)` of the last `except`, whose detail is `str()` of
  the `HTTPException(status_code=500, detail=result.message)` raised in the `try`. -/
  | serverError (message : Option PyStr)

/-- The status code of a response. -/
def WebhookResponse.statusCode : WebhookResponse → Nat
  | .ok _ _ => 200
  | .appException e => (handleAppException [] e).1
  | .serverError _ => 500

section Webhook

variable (unicodeAlnum : Nat → Bool)

/-- `location_webhook(update)`, for an update FastAPI has validated. -/
def locationWebhook (update : LocationUpdate) (es : Service) : WebhookResponse × Service :=
  match processLocationUpdate unicodeAlnum update es with
  | (.ok result, es) =>
    if result.success then (.ok result.truckId result.message, es)
    else (.serverError result.message, es)
  | (.error e, es) => (.appException e, es)

/-- **How an update ends.** `process_location_update` returns a failed result exactly when
`sanitize_string` rejects the truck id; raises `resource_not_found` exactly when
`validate_truck_exists` rejects it; raises the circuit's or the cluster's error when one of
its two writes fails; and otherwise returns a successful result. -/
theorem processLocationUpdate_cases (update : LocationUpdate) (es : Service) :
    (∃ message, sanitizeLocationUpdate unicodeAlnum update = .error message ∧
      (processLocationUpdate unicodeAlnum update es).1 =
        .ok ⟨false, update.truckId, some (pyStr "Failed to process update: " ++ message)⟩) ∨
    (∃ data, sanitizeLocationUpdate unicodeAlnum update = .ok data ∧
      (validateTruckExists data.truckId es).1 = false ∧
      (processLocationUpdate unicodeAlnum update es).1 = .error (truckNotFound data.truckId)) ∨
    (∃ data e, sanitizeLocationUpdate unicodeAlnum update = .ok data ∧
      (validateTruckExists data.truckId es).1 = true ∧
      (processLocationUpdate unicodeAlnum update es).1 = .error e ∧
      (e.errorCode = .circuitOpen ∨ e.errorCode = .elasticsearchUnavailable)) ∨
    (∃ data, sanitizeLocationUpdate unicodeAlnum update = .ok data ∧
      (validateTruckExists data.truckId es).1 = true ∧
      (processLocationUpdate unicodeAlnum update es).1 =
        .ok ⟨true, data.truckId, some (pyStr "Location update processed successfully")⟩) := by
  unfold processLocationUpdate
  split
  · rename_i message rejected
    exact .inl ⟨message, rejected, rfl⟩
  · rename_i data sanitized
    split
    · rename_i es₁ missing
      exact .inr (.inl ⟨data, sanitized, by rw [missing], rfl⟩)
    · rename_i es₁ admitted
      have admitted : (validateTruckExists data.truckId es).1 = true := by rw [admitted]
      split
      · rename_i e es₂ failed
        exact .inr (.inr (.inl ⟨data, e, sanitized, admitted, rfl,
          Service.guarded_error_code (congrArg Prod.fst failed)⟩))
      · split
        · rename_i e es₃ failed
          exact .inr (.inr (.inl ⟨data, e, sanitized, admitted, rfl,
            Service.guarded_error_code (congrArg Prod.fst failed)⟩))
        · exact .inr (.inr (.inr ⟨data, sanitized, admitted, rfl⟩))

theorem locationWebhook_statusCode (update : LocationUpdate) (es : Service) :
    (locationWebhook unicodeAlnum update es).1.statusCode =
      match (processLocationUpdate unicodeAlnum update es).1 with
      | .ok result => if result.success then 200 else 500
      | .error e => getDefaultStatusCode e.errorCode := by
  unfold locationWebhook
  rcases processLocationUpdate unicodeAlnum update es with ⟨result | result, es'⟩
  · rfl
  · by_cases succeeded : result.success <;> simp [succeeded, WebhookResponse.statusCode]

/-- **The webhook's status codes.** For every validated update and every state of the cluster
and its breaker, `location_webhook` answers 500 exactly when `sanitize_string` rejected the
truck id, 404 exactly when `validate_truck_exists` rejected it, 503 exactly when it was
admitted and an Elasticsearch write failed, and 200 exactly when the update was stored. So it
answers no other code: a rejected payload never gets the 400 its docstring promises. -/
theorem locationWebhook_status (update : LocationUpdate) (es : Service) :
    ((locationWebhook unicodeAlnum update es).1.statusCode = 500 ↔
      ∃ message, sanitizeLocationUpdate unicodeAlnum update = .error message) ∧
    ((locationWebhook unicodeAlnum update es).1.statusCode = 404 ↔
      ∃ data, sanitizeLocationUpdate unicodeAlnum update = .ok data ∧
        (validateTruckExists data.truckId es).1 = false) ∧
    ((locationWebhook unicodeAlnum update es).1.statusCode = 503 ↔
      ∃ data e, sanitizeLocationUpdate unicodeAlnum update = .ok data ∧
        (validateTruckExists data.truckId es).1 = true ∧
        (processLocationUpdate unicodeAlnum update es).1 = .error e) ∧
    ((locationWebhook unicodeAlnum update es).1.statusCode = 200 ↔
      ∃ result, (processLocationUpdate unicodeAlnum update es).1 = .ok result ∧
        result.success = true) ∧
    (locationWebhook unicodeAlnum update es).1.statusCode ∈ [200, 404, 500, 503] := by
  rw [locationWebhook_statusCode]
  rcases processLocationUpdate_cases unicodeAlnum update es with
    ⟨message, rejected, ended⟩ | ⟨data, sanitized, missing, ended⟩ |
    ⟨data, e, sanitized, admitted, ended, code⟩ | ⟨data, sanitized, admitted, ended⟩
  · simp [ended, rejected]
  · simp [ended, sanitized, missing, truckNotFound, getDefaultStatusCode]
  · rcases code with code | code <;>
      simp [ended, sanitized, admitted, code, getDefaultStatusCode]
  · simp [ended, sanitized, admitted]

end Webhook

end Runsheet.Ingestion
