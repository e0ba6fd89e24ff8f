import Runsheet.Python.Builtins

/-!
# Settings

`config/settings.py` loads the service's configuration with pydantic. Every field that is
set goes through its validator; a field that is not set takes its default, which pydantic
does not validate. Pydantic reports the errors of every field at once, and runs the model
validator `validate_session_store_config` only when no field failed.
`create_settings_for_environment` sorts those errors into missing and invalid fields. At
startup `validate_startup` checks the loaded settings once more.

The input is what pydantic hands the validators after its type coercion; coercion errors
(a `session_ttl_hours` that is not a number) are left out. The Unicode case maps of
`str.upper` and `str.lower`, and the order in which the process iterates a set of strings,
which depends on its hash seed, are parameters (`Interpreter`).

## Main result

`validateStartup_loaded`: on loaded settings, `validate_startup` fails exactly for a missing
credentials file or a production deployment whose origins all name the local host. Its checks
of each origin never fire, since the field validator has made them already. Loaded settings
are well formed (`loadSettings_wellFormed`), defaults included.
-/

namespace Runsheet.Config

open Runsheet.Python

/-- `Environment`. -/
inductive Environment where
  | development
  | staging
  | production
  deriving DecidableEq, Repr

/-- `Environment.value`. -/
def Environment.value : Environment → PyStr
  | .development => pyStr "development"
  | .staging => pyStr "staging"
  | .production => pyStr "production"

/-- What CPython decides and the source does not spell out: the full case mappings of one
code point under `str.upper` and `str.lower`, and the order in which this process iterates
the set literal of `validate_log_level`. -/
structure Interpreter where
  upperCase : Nat → PyStr
  lowerCase : Nat → PyStr
  levelOrder : List PyStr

/-! ### The field validators -/

/-- `v.startswith("http://") or v.startswith("https://")`. -/
def isHttpUrl (v : PyStr) : Bool :=
  startswith v (pyStr "http://") || startswith v (pyStr "https://")

/-- The check that opens `validate_elastic_endpoint`, `validate_elastic_api_key` and
`validate_google_cloud_project`, and the stripped value they go on with. -/
def nonBlank (field : String) (v : PyStr) : Except PyStr PyStr :=
  if v.isEmpty || (strip v).isEmpty then .error (pyStr (field ++ " cannot be empty"))
  else .ok (strip v)

/-- `validate_elastic_endpoint`. -/
def validateElasticEndpoint (v : PyStr) : Except PyStr PyStr := do
  let v ← nonBlank "elastic_endpoint" v
  if !isHttpUrl v then throw (pyStr "elastic_endpoint must be a valid HTTP/HTTPS URL")
  pure v

/-- `validate_elastic_api_key`. -/
def validateElasticApiKey : PyStr → Except PyStr PyStr :=
  nonBlank "elastic_api_key"

/-- `validate_google_cloud_project`. -/
def validateGoogleCloudProject (v : PyStr) : Except PyStr PyStr := do
  let v ← nonBlank "google_cloud_project" v
  if v.length < 6 || v.length > 30 then
    throw (pyStr "google_cloud_project must be between 6 and 30 characters")
  pure v

/-- `valid_levels` of `validate_log_level`. -/
def validLevels : List PyStr :=
  ["DEBUG", "INFO", "WARNING", "ERROR", "CRITICAL"].map pyStr

/-- The values `validate_session_store_type` accepts. -/
def storeTypes : List PyStr := [pyStr "redis", pyStr "dynamodb"]

section Interpreter

variable (py : Interpreter)

/-- `validate_log_level`. -/
def validateLogLevel (v : PyStr) : Except PyStr PyStr :=
  let v := mapCase py.upperCase (strip v)
  if v ∉ validLevels then
    .error (pyStr "log_level must be one of: " ++ (pyStr ", ").intercalate py.levelOrder)
  else .ok v

/-- `validate_session_store_type`. -/
def validateSessionStoreType (v : PyStr) : Except PyStr PyStr :=
  let v := mapCase py.lowerCase (strip v)
  if v ∉ storeTypes then .error (pyStr "session_store_type must be 'redis' or 'dynamodb'")
  else .ok v

end Interpreter

/-- Whether an origin is `"*"` or holds a `"*"`, the wildcard test of both
`validate_cors_origins` and `validate_startup`. -/
def isWildcard (origin : PyStr) : Bool :=
  origin == pyStr "*" || isIn (pyStr "*") origin

/-- The message both wildcard tests raise or record. -/
def wildcardMessage (origin : PyStr) : PyStr :=
  pyStr "Wildcard patterns are not allowed in CORS origins: " ++ origin ++
    pyStr ". Specify exact frontend domains for security."

/-- One pass of the loop of `validate_cors_origins`. -/
def validateOrigin (origin : PyStr) : Except PyStr PyStr :=
  let origin := strip origin
  if isWildcard origin then .error (wildcardMessage origin)
  else if !isHttpUrl origin then
    .error (pyStr "Invalid CORS origin format: " ++ origin ++
      pyStr ". Must start with http:// or https://")
  else .ok origin

/-- `validate_cors_origins`: the stripped origins, or the first error. -/
def validateCorsOrigins (v : List PyStr) : Except PyStr (List PyStr) :=
  v.mapM validateOrigin

/-- The `ge`/`le` constraints pydantic checks on an integer field, with its messages. -/
def checkBounds (lo hi : Int) (v : Int) : Except PyStr Int :=
  if v < lo then .error (pyStr ("Input should be greater than or equal to " ++ toString lo))
  else if hi < v then .error (pyStr ("Input should be less than or equal to " ++ toString hi))
  else .ok v

/-! ### Loading -/

/-- The fields of `Settings` that a check reads. The other fields (`google_cloud_location`,
`otel_endpoint`, `otel_service_name`) are neither checked nor read by a modelled function. -/
structure Settings where
  environment : Environment
  elasticEndpoint : PyStr
  elasticApiKey : PyStr
  googleCloudProject : PyStr
  googleApplicationCredentials : Option PyStr
  sessionStoreType : PyStr
  redisUrl : Option PyStr
  dynamodbTable : Option PyStr
  sessionTtlHours : Int
  rateLimitRequestsPerMinute : Int
  rateLimitAiRequestsPerMinute : Int
  logLevel : PyStr
  corsOrigins : List PyStr

/-- The value of each field as the environment and the `.env` files give it, after
pydantic's type coercion; `none` when it is not set. -/
structure SettingsInput where
  environment : Option Environment := none
  elasticEndpoint : Option PyStr := none
  elasticApiKey : Option PyStr := none
  googleCloudProject : Option PyStr := none
  googleApplicationCredentials : Option PyStr := none
  sessionStoreType : Option PyStr := none
  redisUrl : Option PyStr := none
  dynamodbTable : Option PyStr := none
  sessionTtlHours : Option Int := none
  rateLimitRequestsPerMinute : Option Int := none
  rateLimitAiRequestsPerMinute : Option Int := none
  logLevel : Option PyStr := none
  corsOrigins : Option (List PyStr) := none

/-- One entry of pydantic's `e.errors()`: the joined `loc`, and the `msg`, which is `none`
for an error of type `missing`. -/
structure FieldError where
  loc : PyStr
  msg : Option PyStr
  deriving DecidableEq

/-- A `ValueError` raised in a validator, as pydantic words it. -/
def valueError {α : Type} (r : Except PyStr α) : Except PyStr α :=
  r.mapError (pyStr "Value error, " ++ ·)

/-- One field: its validator when it is set, its default when it is not, and a `missing`
error for a required field (no default) that is not set. -/
def field {α β : Type} (name : String) (check : α → Except PyStr β) (default : Option β) :
    Option α → Except FieldError β
  | some v => (check v).mapError fun msg => ⟨pyStr name, some msg⟩
  | none => match default with
    | some d => .ok d
    | none => .error ⟨pyStr name, none⟩

/-- The error of a field, if it has one. -/
def errorOf {α : Type} : Except FieldError α → Option FieldError
  | .ok _ => none
  | .error e => some e

/-- `not value`, for an optional `str`. -/
def truthy : Option PyStr → Bool
  | some v => !v.isEmpty
  | none => false

section Interpreter

variable (py : Interpreter)

/-- Pydantic's pass over the fields, in the order the class declares them: the settings, or
the errors of every field that failed. -/
def validateFields (input : SettingsInput) : Except (List FieldError) Settings :=
  let environment := field "environment" .ok (some .development) input.environment
  let elasticEndpoint :=
    field "elastic_endpoint" (valueError ∘ validateElasticEndpoint) none input.elasticEndpoint
  let elasticApiKey :=
    field "elastic_api_key" (valueError ∘ validateElasticApiKey) none input.elasticApiKey
  let googleCloudProject := field "google_cloud_project"
    (valueError ∘ validateGoogleCloudProject) none input.googleCloudProject
  let credentials := field "google_application_credentials" (.ok ∘ some) (some none)
    input.googleApplicationCredentials
  let sessionStoreType := field "session_store_type"
    (valueError ∘ validateSessionStoreType py) (some (pyStr "redis")) input.sessionStoreType
  let redisUrl := field "redis_url" (.ok ∘ some) (some none) input.redisUrl
  let dynamodbTable := field "dynamodb_table" (.ok ∘ some) (some none) input.dynamodbTable
  let sessionTtlHours := field "session_ttl_hours" (checkBounds 1 168) (some 24)
    input.sessionTtlHours
  let requests := field "rate_limit_requests_per_minute" (checkBounds 1 10000) (some 100)
    input.rateLimitRequestsPerMinute
  let aiRequests := field "rate_limit_ai_requests_per_minute" (checkBounds 1 1000) (some 10)
    input.rateLimitAiRequestsPerMinute
  let logLevel :=
    field "log_level" (valueError ∘ validateLogLevel py) (some (pyStr "INFO")) input.logLevel
  let corsOrigins := field "cors_origins" (valueError ∘ validateCorsOrigins)
    (some [pyStr "http://localhost:3000"]) input.corsOrigins
  match environment, elasticEndpoint, elasticApiKey, googleCloudProject, credentials,
      sessionStoreType, redisUrl, dynamodbTable, sessionTtlHours, requests, aiRequests,
      logLevel, corsOrigins with
  | .ok a, .ok b, .ok c, .ok d, .ok e, .ok f, .ok g, .ok h, .ok i, .ok j, .ok k, .ok l, .ok m =>
    .ok ⟨a, b, c, d, e, f, g, h, i, j, k, l, m⟩
  | _, _, _, _, _, _, _, _, _, _, _, _, _ =>
    .error ([errorOf environment, errorOf elasticEndpoint, errorOf elasticApiKey,
      errorOf googleCloudProject, errorOf credentials, errorOf sessionStoreType,
      errorOf redisUrl, errorOf dynamodbTable, errorOf sessionTtlHours, errorOf requests,
      errorOf aiRequests, errorOf logLevel, errorOf corsOrigins].filterMap id)

end Interpreter

/-- The model validator `validate_session_store_config`. -/
def validateSessionStoreConfig (s : Settings) : Except PyStr Settings :=
  if s.sessionStoreType = pyStr "redis" ∧ !truthy s.redisUrl then
    if s.environment ≠ .development then
      .error (pyStr ("redis_url is required when session_store_type is 'redis' " ++
        "in non-development environments"))
    else .ok s
  else if s.sessionStoreType = pyStr "dynamodb" ∧ !truthy s.dynamodbTable then
    if s.environment ≠ .development then
      .error (pyStr ("dynamodb_table is required when session_store_type is 'dynamodb' " ++
        "in non-development environments"))
    else .ok s
  else .ok s

/-- `ConfigurationError`. -/
structure ConfigurationError where
  message : PyStr
  missingFields : List PyStr
  invalidFields : List (PyStr × PyStr)

/-- `ConfigurationError.format_error_message`. -/
def ConfigurationError.formatErrorMessage (e : ConfigurationError) : PyStr :=
  e.message ++
    (if e.missingFields.isEmpty then []
     else pyStr "\nMissing required fields: " ++ (pyStr ", ").intercalate e.missingFields) ++
    (if e.invalidFields.isEmpty then []
     else pyStr "\nInvalid field values:\n" ++ (pyStr "\n").intercalate
       (e.invalidFields.map fun (name, message) => pyStr "  - " ++ name ++ pyStr ": " ++ message))

section Interpreter

variable (py : Interpreter)

/-- Building `EnvironmentSettings()`: the fields, then the model validator, whose error
pydantic reports under the empty `loc`. -/
def loadSettings (input : SettingsInput) : Except (List FieldError) Settings :=
  match validateFields py input with
  | .error errors => .error errors
  | .ok s => match validateSessionStoreConfig s with
    | .ok s => .ok s
    | .error e => .error [⟨[], some (pyStr "Value error, " ++ e)⟩]

/-- `create_settings_for_environment(environment)`. -/
def createSettingsForEnvironment (environment : Environment) (input : SettingsInput) :
    Except ConfigurationError Settings :=
  match loadSettings py input with
  | .ok s => .ok s
  | .error errors =>
    .error ⟨pyStr "Failed to load configuration for environment '" ++ environment.value ++
        pyStr "'",
      errors.filterMap fun e => if e.msg = none then some e.loc else none,
      errors.filterMap fun e => e.msg.map (e.loc, ·)⟩

end Interpreter

/-! ### `validate_startup` -/

/-- `validation_errors[key] = value` on a dict, which keeps the place of a key it already
holds. -/
def dictSet (d : List (PyStr × PyStr)) (key value : PyStr) : List (PyStr × PyStr) :=
  if d.any (·.1 == key) then d.map fun p => if p.1 = key then (key, value) else p
  else d ++ [(key, value)]

/-- One pass of the loop of `validate_startup` over `enumerate(settings.cors_origins)`. -/
def originCheck (errors : List (PyStr × PyStr)) (entry : Nat × PyStr) :
    List (PyStr × PyStr) :=
  let key := pyStr ("cors_origins[" ++ toString entry.1 ++ "]")
  let errors := if !isHttpUrl entry.2 then
      dictSet errors key (pyStr "Invalid origin format: " ++ entry.2 ++
        pyStr ". Must start with http:// or https://")
    else errors
  if isWildcard entry.2 then dictSet errors key (wildcardMessage entry.2) else errors

/-- The `all(...)` test of `validate_startup` for a production deployment. -/
def localhostOnly (origins : List PyStr) : Bool :=
  origins.all fun origin => isIn (pyStr "localhost") origin || isIn (pyStr "127.0.0.1") origin

/-- The credentials check of `validate_startup`; `fileExists` is `Path(p).exists()`. -/
def credentialErrors (fileExists : PyStr → Bool) (settings : Settings) :
    List (PyStr × PyStr) :=
  match settings.googleApplicationCredentials with
  | some path =>
    if !path.isEmpty && !fileExists path then
      [(pyStr "google_application_credentials", pyStr "Credentials file not found: " ++ path)]
    else []
  | none => []

/-- The message `validate_startup` records for a production deployment without a
non-local origin. -/
def localhostMessage : PyStr :=
  pyStr ("Production environment requires non-localhost CORS origins. " ++
    "Configure your production frontend domain(s).")

/-- The `validation_errors` that `validate_startup` collects. -/
def validationErrors (fileExists : PyStr → Bool) (settings : Settings) :
    List (PyStr × PyStr) :=
  let errors := (settings.corsOrigins.enum.foldl originCheck (credentialErrors fileExists settings))
  if settings.environment = .production ∧ localhostOnly settings.corsOrigins then
    dictSet errors (pyStr "cors_origins") localhostMessage
  else errors

/-- `validate_startup()`, on the settings `get_settings()` returns. -/
def validateStartup (fileExists : PyStr → Bool) (settings : Settings) :
    Except ConfigurationError Unit :=
  let errors := validationErrors fileExists settings
  if errors.isEmpty then .ok ()
  else .error ⟨pyStr "Configuration validation failed during startup", [], errors⟩

/-! ### What each check accepts -/

/-- A `do` block over `Except` succeeds when its first step does and the rest succeeds on
that value. -/
theorem bind_eq_ok {ε α β : Type} {x : Except ε α} {f : α → Except ε β} {b : β} :
    x >>= f = .ok b ↔ ∃ a, x = .ok a ∧ f a = .ok b := by
  cases x <;> simp [bind, Except.bind]

@[simp] theorem pure_eq_ok {ε α : Type} {a b : α} :
    (pure a : Except ε α) = .ok b ↔ a = b := by
  simp [pure, Except.pure]

@[simp] theorem throw_map_ne_ok {α β : Type} {e : PyStr} {f : α → β} {b : β} :
    f <$> (throw e : Except PyStr α) ≠ .ok b := by
  simp [throw, throwThe, MonadExceptOf.throw, Functor.map, Except.map]

theorem nonBlank_ok {name : String} {v w : PyStr} (h : nonBlank name v = .ok w) :
    w = strip v ∧ w ≠ [] := by
  unfold nonBlank at h
  split at h
  · cases h
  · cases h
    simp_all

theorem validateElasticEndpoint_ok {v w : PyStr} (h : validateElasticEndpoint v = .ok w) :
    isHttpUrl w := by
  obtain ⟨u, -, checked⟩ := bind_eq_ok.mp h
  by_cases url : isHttpUrl u <;> simp_all

theorem validateElasticApiKey_ok {v w : PyStr} (h : validateElasticApiKey v = .ok w) :
    w ≠ [] :=
  (nonBlank_ok h).2

theorem validateGoogleCloudProject_ok {v w : PyStr} (h : validateGoogleCloudProject v = .ok w) :
    6 ≤ w.length ∧ w.length ≤ 30 := by
  obtain ⟨u, -, checked⟩ := bind_eq_ok.mp h
  by_cases size : u.length < 6 ∨ 30 < u.length <;> simp_all

theorem validateLogLevel_ok {py : Interpreter} {v w : PyStr} (h : validateLogLevel py v = .ok w) :
    w ∈ validLevels := by
  dsimp only [validateLogLevel] at h
  split at h
  · cases h
  · cases h
    exact not_not.mp ‹_›

theorem validateSessionStoreType_ok {py : Interpreter} {v w : PyStr}
    (h : validateSessionStoreType py v = .ok w) : w ∈ storeTypes := by
  dsimp only [validateSessionStoreType] at h
  split at h
  · cases h
  · cases h
    exact not_not.mp ‹_›

/-- What an origin that passed `validate_cors_origins` satisfies. -/
def ValidOrigin (origin : PyStr) : Prop :=
  isHttpUrl origin = true ∧ isWildcard origin = false

theorem validateOrigin_ok {o w : PyStr} (h : validateOrigin o = .ok w) : ValidOrigin w := by
  dsimp only [validateOrigin] at h
  split at h
  · cases h
  · split at h
    · cases h
    · cases h
      simp_all [ValidOrigin]

theorem validateCorsOrigins_ok : ∀ {os ws : List PyStr}, validateCorsOrigins os = .ok ws →
    ∀ w ∈ ws, ValidOrigin w
  | [], ws, h => by cases h; simp
  | o :: os, ws, h => by
    rw [validateCorsOrigins, List.mapM_cons] at h
    obtain ⟨w, first, h⟩ := bind_eq_ok.mp h
    obtain ⟨ws', rest, h⟩ := bind_eq_ok.mp h
    cases h
    simp only [List.mem_cons, forall_eq_or_imp]
    exact ⟨validateOrigin_ok first, validateCorsOrigins_ok rest⟩

theorem checkBounds_ok {lo hi v w : Int} (h : checkBounds lo hi v = .ok w) :
    lo ≤ w ∧ w ≤ hi := by
  unfold checkBounds at h
  split at h
  · cases h
  · split at h
    · cases h
    · cases h
      omega

@[simp] theorem valueError_ok {α : Type} {r : Except PyStr α} {a : α} :
    valueError r = .ok a ↔ r = .ok a := by
  cases r <;> simp [valueError, Except.mapError]

/-- A field that validates holds a value its check accepted or its default. -/
theorem field_ok {α β : Type} {name : String} {check : α → Except PyStr β}
    {default : Option β} {x : Option α} {w : β} (h : field name check default x = .ok w) :
    (∃ v, x = some v ∧ check v = .ok w) ∨ (x = none ∧ default = some w) := by
  cases x with
  | some v =>
    left
    refine ⟨v, rfl, ?_⟩
    cases checked : check v <;> simp_all [field, Except.mapError]
  | none =>
    cases default <;> simp_all [field]

/-- A property that every accepted value and the default have holds of the field. -/
theorem field_sound {α β : Type} {P : β → Prop} {name : String}
    {check : α → Except PyStr β}
    {default : Option β} {x : Option α} {w : β} (h : field name check default x = .ok w)
    (checked : ∀ v u, check v = .ok u → P u) (defaulted : ∀ d, default = some d → P d) :
    P w := by
  rcases field_ok h with ⟨v, -, accepted⟩ | ⟨-, given⟩
  · exact checked v w accepted
  · exact defaulted w given

/-! ### Loaded settings are well formed -/

/-- What every field of a settings record that passed pydantic's field pass satisfies,
whether it was set or defaulted. -/
structure Settings.FieldsValid (s : Settings) : Prop where
  elasticEndpoint : isHttpUrl s.elasticEndpoint = true
  elasticApiKey : s.elasticApiKey ≠ []
  googleCloudProject : 6 ≤ s.googleCloudProject.length ∧ s.googleCloudProject.length ≤ 30
  sessionStoreType : s.sessionStoreType ∈ storeTypes
  sessionTtlHours : 1 ≤ s.sessionTtlHours ∧ s.sessionTtlHours ≤ 168
  rateLimitRequestsPerMinute :
    1 ≤ s.rateLimitRequestsPerMinute ∧ s.rateLimitRequestsPerMinute ≤ 10000
  rateLimitAiRequestsPerMinute :
    1 ≤ s.rateLimitAiRequestsPerMinute ∧ s.rateLimitAiRequestsPerMinute ≤ 1000
  logLevel : s.logLevel ∈ validLevels
  corsOrigins : ∀ origin ∈ s.corsOrigins, ValidOrigin origin

/-- A well-formed settings record: valid fields, and outside development the session store
that `session_store_type` names is configured. -/
structure Settings.WellFormed (s : Settings) extends s.FieldsValid : Prop where
  sessionStore : s.environment ≠ .development →
    (s.sessionStoreType = pyStr "redis" → truthy s.redisUrl = true) ∧
    (s.sessionStoreType = pyStr "dynamodb" → truthy s.dynamodbTable = true)

theorem validateFields_valid {py : Interpreter} {input : SettingsInput} {s : Settings}
    (h : validateFields py input = .ok s) : s.FieldsValid := by
  dsimp only [validateFields] at h
  split at h
  · rename_i _ endpoint apiKey project _ storeType _ _ ttl requests aiRequests logLevel origins
    cases h
    exact
      { elasticEndpoint := field_sound (P := fun w => isHttpUrl w = true) endpoint
          (fun _ _ ok => validateElasticEndpoint_ok (valueError_ok.mp ok)) (by simp)
        elasticApiKey := field_sound (P := fun w => w ≠ []) apiKey
          (fun _ _ ok => validateElasticApiKey_ok (valueError_ok.mp ok)) (by simp)
        googleCloudProject := field_sound (P := fun w => 6 ≤ w.length ∧ w.length ≤ 30) project
          (fun _ _ ok => validateGoogleCloudProject_ok (valueError_ok.mp ok)) (by simp)
        sessionStoreType := field_sound (P := (· ∈ storeTypes)) storeType
          (fun _ _ ok => validateSessionStoreType_ok (valueError_ok.mp ok)) (by simp [storeTypes])
        sessionTtlHours := field_sound (P := fun w => 1 ≤ w ∧ w ≤ 168) ttl
          (fun _ _ => checkBounds_ok) (by simp)
        rateLimitRequestsPerMinute := field_sound (P := fun w => 1 ≤ w ∧ w ≤ 10000) requests
          (fun _ _ => checkBounds_ok) (by simp)
        rateLimitAiRequestsPerMinute :=
          field_sound (P := fun w => 1 ≤ w ∧ w ≤ 1000) aiRequests
          (fun _ _ => checkBounds_ok) (by simp)
        logLevel := field_sound (P := (· ∈ validLevels)) logLevel
          (fun _ _ ok => validateLogLevel_ok (valueError_ok.mp ok)) (by simp [validLevels])
        corsOrigins := field_sound (P := fun w => ∀ origin ∈ w, ValidOrigin origin) origins
          (fun _ _ ok => validateCorsOrigins_ok (valueError_ok.mp ok))
          (by simp [ValidOrigin]; decide) }
  · cases h

theorem validateSessionStoreConfig_ok {s s' : Settings}
    (h : validateSessionStoreConfig s = .ok s') :
    s' = s ∧ (s.environment ≠ .development →
      (s.sessionStoreType = pyStr "redis" → truthy s.redisUrl = true) ∧
      (s.sessionStoreType = pyStr "dynamodb" → truthy s.dynamodbTable = true)) := by
  unfold validateSessionStoreConfig at h
  split_ifs at h with redis production dynamodb production' <;> cases h <;>
    simp_all [Bool.not_eq_true']

theorem loadSettings_wellFormed {py : Interpreter} {input : SettingsInput} {s : Settings}
    (loaded : loadSettings py input = .ok s) : s.WellFormed := by
  unfold loadSettings at loaded
  split at loaded
  · cases loaded
  · rename_i s₀ valid
    split at loaded
    · rename_i s₁ store
      cases loaded
      obtain ⟨rfl, configured⟩ := validateSessionStoreConfig_ok store
      exact ⟨validateFields_valid valid, configured⟩
    · cases loaded

theorem loadSettings_of_created {py : Interpreter} {environment : Environment}
    {input : SettingsInput} {s : Settings}
    (loaded : createSettingsForEnvironment py environment input = .ok s) :
    loadSettings py input = .ok s := by
  unfold createSettingsForEnvironment at loaded
  split at loaded
  · cases loaded
    assumption
  · cases loaded

/-! ### `validate_startup` on loaded settings -/

theorem originCheck_of_valid (errors : List (PyStr × PyStr)) {entry : Nat × PyStr}
    (valid : ValidOrigin entry.2) : originCheck errors entry = errors := by
  obtain ⟨url, wildcard⟩ := valid
  simp [originCheck, url, wildcard]

theorem foldl_originCheck : ∀ {entries : List (Nat × PyStr)} (errors : List (PyStr × PyStr)),
    (∀ entry ∈ entries, ValidOrigin entry.2) → entries.foldl originCheck errors = errors
  | [], _, _ => rfl
  | entry :: entries, errors, valid => by
    rw [List.foldl_cons, originCheck_of_valid errors (valid entry (.head _))]
    exact foldl_originCheck errors fun e mem => valid e (.tail _ mem)

theorem dictSet_of_absent {d : List (PyStr × PyStr)} {key : PyStr} (value : PyStr)
    (absent : ∀ p ∈ d, p.1 ≠ key) : dictSet d key value = d ++ [(key, value)] := by
  have : d.any (·.1 == key) = false := by simpa using absent
  simp [dictSet, this]

theorem credentialErrors_key (fileExists : PyStr → Bool) (s : Settings) :
    ∀ p ∈ credentialErrors fileExists s, p.1 = pyStr "google_application_credentials" := by
  unfold credentialErrors
  split
  · split <;> simp
  · simp

/-- With every origin valid, `validate_startup` records the credentials error and the
production error, and nothing for any one origin. -/
theorem validationErrors_of_valid (fileExists : PyStr → Bool) {s : Settings}
    (valid : ∀ origin ∈ s.corsOrigins, ValidOrigin origin) :
    validationErrors fileExists s = credentialErrors fileExists s ++
      if s.environment = .production ∧ localhostOnly s.corsOrigins = true then
        [(pyStr "cors_origins", localhostMessage)] else [] := by
  have unchanged := foldl_originCheck (credentialErrors fileExists s)
    fun entry mem => valid entry.2 (List.snd_mem_of_mem_enum mem)
  have absent : ∀ p ∈ credentialErrors fileExists s, p.1 ≠ pyStr "cors_origins" := by
    intro p mem
    rw [credentialErrors_key fileExists s p mem]
    decide
  unfold validationErrors
  rw [unchanged]
  split <;> simp [dictSet_of_absent _ absent]

/-- **`validate_startup` after loading.** On settings that `create_settings_for_environment`
returned, the errors `validate_startup` collects are the missing credentials file, if any, and
in production the error for origins that all name the local host; so it fails exactly in
those two cases. Its checks of each origin's format and wildcard never record anything, since
the field validator has rejected every such origin already. -/
theorem validateStartup_loaded {py : Interpreter} {environment : Environment}
    {input : SettingsInput} {s : Settings}
    (loaded : createSettingsForEnvironment py environment input = .ok s)
    (fileExists : PyStr → Bool) :
    validationErrors fileExists s = credentialErrors fileExists s ++
      if s.environment = .production ∧ localhostOnly s.corsOrigins = true then
        [(pyStr "cors_origins", localhostMessage)] else [] :=
  validationErrors_of_valid fileExists
    (loadSettings_wellFormed (loadSettings_of_created loaded)).corsOrigins

/-- Case maps that agree with CPython's on ASCII letters. -/
def asciiInterpreter : Interpreter where
  upperCase c := if 97 ≤ c ∧ c ≤ 122 then [c - 32] else [c]
  lowerCase c := if 65 ≤ c ∧ c ≤ 90 then [c + 32] else [c]
  levelOrder := validLevels

/-- A production deployment that keeps the default origin. -/
def productionInput : SettingsInput where
  environment := some .production
  elasticEndpoint := some (pyStr " https://search.internal:9200 ")
  elasticApiKey := some (pyStr "secret")
  googleCloudProject := some (pyStr "runsheet-prod")
  redisUrl := some (pyStr "redis://cache:6379/0")
  logLevel := some (pyStr "warning")

/-- The settings `productionInput` loads to. -/
def productionSettings : Settings where
  environment := .production
  elasticEndpoint := pyStr "https://search.internal:9200"
  elasticApiKey := pyStr "secret"
  googleCloudProject := pyStr "runsheet-prod"
  googleApplicationCredentials := none
  sessionStoreType := pyStr "redis"
  redisUrl := some (pyStr "redis://cache:6379/0")
  dynamodbTable := none
  sessionTtlHours := 24
  rateLimitRequestsPerMinute := 100
  rateLimitAiRequestsPerMinute := 10
  logLevel := pyStr "WARNING"
  corsOrigins := [pyStr "http://localhost:3000"]

theorem productionInput_loads :
    createSettingsForEnvironment asciiInterpreter .production productionInput =
      .ok productionSettings := by
  rfl

theorem production_default_origin_fails_startup :
    createSettingsForEnvironment asciiInterpreter .production productionInput =
      .ok productionSettings ∧
    validationErrors (fun _ => true) productionSettings =
      credentialErrors (fun _ => true) productionSettings ++
        if productionSettings.environment = .production ∧
            localhostOnly productionSettings.corsOrigins = true then
          [(pyStr "cors_origins", localhostMessage)] else [] :=
  ⟨productionInput_loads, validateStartup_loaded productionInput_loads fun _ => true⟩

end Runsheet.Config
