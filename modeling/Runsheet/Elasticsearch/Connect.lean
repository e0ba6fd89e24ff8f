import Runsheet.Elasticsearch.Validation
import Runsheet.Config.Settings

/-!
# Connecting with the validated settings

`ElasticsearchService.connect` strips double quotes from both ends of the API key and of the
endpoint, and raises a `ValueError` when either is left empty. It then builds the client and
pings the cluster: a ping that answers False raises a `ConnectionError`, and one that answers
True runs `setup_indices` and then `validate_index_schemas`. That call only reads the
cluster and catches its own exceptions, and `connect` drops its report, so it is left out
here. The `except` around all of it re-raises whatever it catches. The ILM calls that stand
between these steps catch their own exceptions and write no mapping, so they are left out.

The settings `connect` reads have passed the validators of `config/settings.py`. Those strip
white space, not quotes: the endpoint keeps its `http` prefix, but an API key of quotes only
passes `validate_elastic_api_key`.

## Main result

* `loaded_key_rejected_iff_quotes`: for every settings `create_settings_for_environment`
  loads, `connect` raises its `ValueError` exactly when the API key is made of double quotes
  only; the endpoint never triggers it.
-/

namespace Runsheet.Elasticsearch

open Runsheet.Python

/-- The exceptions `connect` re-raises. -/
inductive ConnectError where
  /-- The `ValueError` of its check of the credentials. -/
  | valueError (message : PyStr)
  /-- The `ConnectionError` of a ping that answered False. -/
  | connectionError (message : PyStr)
  /-- An exception of the client: of `Elasticsearch(...)` or of its `ping()`. -/
  | clientError (message : PyStr)
  deriving DecidableEq

/-- `ElasticsearchService.connect()`, given what the client's `ping()` does and which turns of
the loop of `setup_indices` raise: the cluster it leaves. -/
def connect (settings : Config.Settings) (ping : Except PyStr Bool) (raises : PyStr → Bool)
    (c : Indices) : Except ConnectError Indices := do
  let apiKey := stripChars (pyStr "\"") settings.elasticApiKey
  let endpoint := stripChars (pyStr "\"") settings.elasticEndpoint
  if apiKey.isEmpty || endpoint.isEmpty then
    throw (.valueError (pyStr "ELASTIC_API_KEY and ELASTIC_ENDPOINT must be set in configuration"))
  match ping with
  | .error message => throw (.clientError message)
  | .ok false => throw (.connectionError (pyStr "Failed to ping Elasticsearch"))
  | .ok true => pure (setupIndices raises c)

/-- The credential check of `connect` is its only `ValueError`. -/
theorem connect_valueError (settings : Config.Settings) (ping : Except PyStr Bool)
    (raises : PyStr → Bool) (c : Indices) :
    (∃ message, connect settings ping raises c = .error (.valueError message)) ↔
      stripChars (pyStr "\"") settings.elasticApiKey = [] ∨
        stripChars (pyStr "\"") settings.elasticEndpoint = [] := by
  unfold connect
  by_cases empty : stripChars (pyStr "\"") settings.elasticApiKey = [] ∨
      stripChars (pyStr "\"") settings.elasticEndpoint = []
  · have check : ((stripChars (pyStr "\"") settings.elasticApiKey).isEmpty ||
        (stripChars (pyStr "\"") settings.elasticEndpoint).isEmpty) = true := by
      rcases empty with empty | empty <;> simp [empty]
    simp only [check, if_true]
    exact iff_of_true ⟨_, rfl⟩ empty
  · have check : ((stripChars (pyStr "\"") settings.elasticApiKey).isEmpty ||
        (stripChars (pyStr "\"") settings.elasticEndpoint).isEmpty) = false := by
      simpa [not_or, List.isEmpty_iff] using empty
    simp only [check, Bool.false_eq_true, if_false]
    refine iff_of_false ?_ empty
    rintro ⟨message, raised⟩
    rcases ping with _ | _ | _ <;> cases raised

/-- An endpoint with an `http://` or `https://` prefix is never stripped to nothing. -/
theorem stripChars_httpUrl_ne_nil {endpoint : PyStr} (url : Config.isHttpUrl endpoint = true) :
    stripChars (pyStr "\"") endpoint ≠ [] := by
  have head : 104 ∈ endpoint := by
    simp only [Config.isHttpUrl, startswith, Bool.or_eq_true] at url
    rcases url with url | url <;>
      exact (List.isPrefixOf_iff_prefix.mp url).subset (by decide)
  rw [Ne, stripChars_eq_nil]
  exact fun quotes => absurd (quotes 104 head) (by decide)

/-- **Validated settings and `connect`.** For every settings `create_settings_for_environment`
loads, whatever the client and the cluster do, `connect` raises its `ValueError` exactly when
the API key is made of double quotes only. The endpoint validator's `http` prefix keeps the
endpoint from being stripped to nothing, but `validate_elastic_api_key` strips white space
only, so a key such as `""` passes it and is then rejected here. -/
theorem loaded_key_rejected_iff_quotes {py : Config.Interpreter}
    {environment : Config.Environment} {input : Config.SettingsInput} {s : Config.Settings}
    (loaded : Config.createSettingsForEnvironment py environment input = .ok s)
    (ping : Except PyStr Bool) (raises : PyStr → Bool) (c : Indices) :
    (∃ message, connect s ping raises c = .error (.valueError message)) ↔
      ∀ ch ∈ s.elasticApiKey, ch = '"'.toNat := by
  have valid := Config.loadSettings_wellFormed (Config.loadSettings_of_created loaded)
  rw [connect_valueError, or_iff_left (stripChars_httpUrl_ne_nil valid.elasticEndpoint),
    stripChars_eq_nil]
  simp [pyStr]

/-- The input of `productionInput`, with an API key of two double quotes. -/
def quotedKeyInput : Config.SettingsInput :=
  { Config.productionInput with elasticApiKey := some (pyStr "\"\"") }

/-- A key of two double quotes passes the validators and is rejected by `connect`. -/
theorem quoted_key_loads_and_is_rejected :
    Config.createSettingsForEnvironment Config.asciiInterpreter .production quotedKeyInput =
      .ok { Config.productionSettings with elasticApiKey := pyStr "\"\"" } ∧
    ∃ message, connect { Config.productionSettings with elasticApiKey := pyStr "\"\"" }
      (.ok true) (fun _ => false) [] = .error (.valueError message) :=
  have loaded : Config.createSettingsForEnvironment Config.asciiInterpreter .production
      quotedKeyInput = .ok { Config.productionSettings with elasticApiKey := pyStr "\"\"" } := by
    rfl
  ⟨loaded, (loaded_key_rejected_iff_quotes loaded _ _ _).mpr (by decide)⟩

end Runsheet.Elasticsearch
