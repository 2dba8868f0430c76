import ShootingStar.Lib.Batch
import ShootingStar.Lib.Decimal
import ShootingStar.Lib.Keyed

/-!
# The configuration

The configuration holds a text for every field.  A text is checked and rewritten when it is set, and
read again whenever its value is asked for.  The default of every field passes its own check
(`canonicalizeValue_defaultValue`).

A number with a fractional part is rewritten with six decimals.  It is the number read afterwards
exactly when it has at most six decimals (`getDouble_set_iff`).
-/

/-- The exceptions that are thrown, with their messages. -/
inductive ConfigError where
  | invalidArgument (message : String)
  | outOfRange (message : String)
  deriving DecidableEq, Repr

namespace GlobalConfig

/-! ### Fields -/

/-- What the text of a field stands for. -/
inductive ValueType where
  | string | int | double | uint16 | bool
  deriving DecidableEq, Repr

/-- The fields of a configuration. -/
inductive Field where
  | configPath | serverHost | serverPort | logLevel | profileServiceHost | profileServicePort
  | retrievalServiceHost | retrievalServicePort | rankingServiceHost | rankingServicePort
  | retrievalRecallCandidateExpandRatio | retrieverItemCfHost | retrieverItemCfPort
  | retrieverUserCfHost | retrieverUserCfPort | retrieverMaxTriggerSeedCount
  | retrieverItemCfScoreMultiplier | retrieverUserCfScoreMultiplier | userCfTriggerSeedUserCount
  | profileStoreType | profileStoreDataPath | itemIndexStoreType | itemIndexStoreDataPath
  | rankingRankers | rankingDefaultRanker | similarityStoreType | similarityDataPath
  | localCacheCapacity | localCacheTtlSeconds | elasticsearchBaseUrl | elasticsearchIndex
  | elasticsearchUsername | elasticsearchPassword | elasticsearchPasswordEnv
  | elasticsearchRequestTimeoutMs | elasticsearchHttpClientPoolSize
  | elasticsearchHttpClientAcquireTimeoutMs | elasticsearchHttpClientRequestTimeoutMs
  | elasticsearchHttpClientConnectTimeoutMs | elasticsearchHttpClientAcquireRetryMaxAttempts
  | elasticsearchHttpClientAcquireRetryDelayMs | elasticsearchHttpClientConnectRetryMaxAttempts
  | elasticsearchHttpClientConnectRetryDelayMs | elasticsearchHttpClientRequestRetryMaxAttempts
  | elasticsearchHttpClientRequestRetryDelayMs | elasticsearchHttpClientFollowRedirects
  | elasticsearchHttpClientVerifySsl | elasticsearchHttpClientCaCertPath | redisHost | redisPort
  | redisDb | redisUsername | redisPassword | redisPasswordEnv | redisKeyPrefix
  | redisConnectTimeoutMs | redisSocketTimeoutMs | redisPoolSize | redisPoolWaitTimeoutMs
  | redisRetryMaxAttempts | redisRetryDelayMs | redisCommandBatchSize
  deriving DecidableEq, Repr

/-- A field, its names in files and on the command line, and its default. -/
structure ConfigEntry where
  field : Field
  key : String
  argumentName : String
  valueType : ValueType
  defaultValue : String
  deriving DecidableEq, Repr

/-- The fields in order. -/
def kConfigEntries : List ConfigEntry :=
  [⟨.configPath, "config.path", "config_path", .string, "config.debug.yaml"⟩,
   ⟨.serverHost, "server.host", "host", .string, "127.0.0.1"⟩,
   ⟨.serverPort, "server.port", "port", .uint16, "50000"⟩,
   ⟨.logLevel, "server.log_level", "log_level", .string, "INFO"⟩,
   ⟨.profileServiceHost, "profile_service.host", "profile_service_host", .string, "localhost"⟩,
   ⟨.profileServicePort, "profile_service.port", "profile_service_port", .uint16, "50100"⟩,
   ⟨.retrievalServiceHost, "retrieval_service.host",
      "retrieval_service_host", .string, "localhost"⟩,
   ⟨.retrievalServicePort, "retrieval_service.port", "retrieval_service_port", .uint16, "50200"⟩,
   ⟨.rankingServiceHost, "ranking_service.host", "ranking_service_host", .string, "localhost"⟩,
   ⟨.rankingServicePort, "ranking_service.port", "ranking_service_port", .uint16, "50300"⟩,
   ⟨.retrievalRecallCandidateExpandRatio, "retrieval.recall_candidate_expand_ratio",
      "recall_candidate_expand_ratio", .double, "1.0"⟩,
   ⟨.retrieverItemCfHost, "retriever_item_cf.host",
      "retriever_item_cf_host", .string, "localhost"⟩,
   ⟨.retrieverItemCfPort, "retriever_item_cf.port", "retriever_item_cf_port", .uint16, "50210"⟩,
   ⟨.retrieverUserCfHost, "retriever_user_cf.host",
      "retriever_user_cf_host", .string, "localhost"⟩,
   ⟨.retrieverUserCfPort, "retriever_user_cf.port", "retriever_user_cf_port", .uint16, "50220"⟩,
   ⟨.retrieverMaxTriggerSeedCount, "retriever.max_trigger_seed_count",
      "retriever_max_trigger_seed_count", .int, "24"⟩,
   ⟨.retrieverItemCfScoreMultiplier, "retriever_item_cf.score_multiplier",
      "item_cf_score_multiplier", .double, "1.0"⟩,
   ⟨.retrieverUserCfScoreMultiplier, "retriever_user_cf.score_multiplier",
      "user_cf_score_multiplier", .double, "1.0"⟩,
   ⟨.userCfTriggerSeedUserCount, "retriever_user_cf.trigger_seed_user_count",
      "user_cf_trigger_seed_user_count", .int, "10"⟩,
   ⟨.profileStoreType, "profile_store.type", "store_type", .string, "local"⟩,
   ⟨.profileStoreDataPath, "profile_store.data_path",
      "data_path", .string,
      "tests/testdata/recommendation_engine/local_recommendation_fixture/profiles.jsonl"⟩,
   ⟨.itemIndexStoreType, "item_index_store.type", "item_index_store_type", .string, "local"⟩,
   ⟨.itemIndexStoreDataPath, "item_index_store.data_path",
      "item_index_data_path", .string,
      "tests/testdata/recommendation_engine/local_recommendation_fixture/item_index.jsonl"⟩,
   ⟨.rankingRankers, "ranking.rankers", "ranking_rankers", .string, "heuristic_v1"⟩,
   ⟨.rankingDefaultRanker, "ranking.default_ranker",
      "ranking_default_ranker", .string, "heuristic_v1"⟩,
   ⟨.similarityStoreType, "similarity_store.type", "similarity_store_type", .string, "redis"⟩,
   ⟨.similarityDataPath, "similarity_store.data_path", "similarity_data_path", .string, ""⟩,
   ⟨.localCacheCapacity, "local_cache.capacity", "cache_capacity", .int, "0"⟩,
   ⟨.localCacheTtlSeconds, "local_cache.ttl_seconds", "cache_ttl_seconds", .int, "300"⟩,
   ⟨.elasticsearchBaseUrl, "elasticsearch.base_url", "es_base_url", .string, ""⟩,
   ⟨.elasticsearchIndex, "elasticsearch.index", "es_index", .string, "movielens_32m_user_profile"⟩,
   ⟨.elasticsearchUsername, "elasticsearch.username", "es_username", .string, "elastic"⟩,
   ⟨.elasticsearchPassword, "elasticsearch.password", "es_password", .string, ""⟩,
   ⟨.elasticsearchPasswordEnv, "elasticsearch.password_env",
      "es_password_env", .string, "ES_PASSWORD"⟩,
   ⟨.elasticsearchRequestTimeoutMs, "elasticsearch.request_timeout_ms",
      "es_request_timeout_ms", .int, "100"⟩,
   ⟨.elasticsearchHttpClientPoolSize, "elasticsearch.http_client.curl_handle_pool.pool_size",
      "es_http_client_curl_handle_pool_size", .int, "4"⟩,
   ⟨.elasticsearchHttpClientAcquireTimeoutMs, "elasticsearch.http_client.curl_handle_pool.acquire_timeout_ms",
      "es_http_client_curl_handle_pool_acquire_timeout_ms", .int, "30"⟩,
   ⟨.elasticsearchHttpClientRequestTimeoutMs, "elasticsearch.http_client.request_timeout_ms",
      "es_http_client_request_timeout_ms", .int, "30"⟩,
   ⟨.elasticsearchHttpClientConnectTimeoutMs, "elasticsearch.http_client.connect_timeout_ms",
      "es_http_client_connect_timeout_ms", .int, "20"⟩,
   ⟨.elasticsearchHttpClientAcquireRetryMaxAttempts, "elasticsearch.http_client.curl_handle_pool.retry.max_attempts",
      "es_http_client_curl_handle_pool_retry_max_attempts", .int, "3"⟩,
   ⟨.elasticsearchHttpClientAcquireRetryDelayMs, "elasticsearch.http_client.curl_handle_pool.retry.delay_ms",
      "es_http_client_curl_handle_pool_retry_delay_ms", .int, "0"⟩,
   ⟨.elasticsearchHttpClientConnectRetryMaxAttempts, "elasticsearch.http_client.connect_retry.max_attempts",
      "es_http_client_connect_retry_max_attempts", .int, "3"⟩,
   ⟨.elasticsearchHttpClientConnectRetryDelayMs, "elasticsearch.http_client.connect_retry.delay_ms",
      "es_http_client_connect_retry_delay_ms", .int, "0"⟩,
   ⟨.elasticsearchHttpClientRequestRetryMaxAttempts, "elasticsearch.http_client.request_retry.max_attempts",
      "es_http_client_request_retry_max_attempts", .int, "3"⟩,
   ⟨.elasticsearchHttpClientRequestRetryDelayMs, "elasticsearch.http_client.request_retry.delay_ms",
      "es_http_client_request_retry_delay_ms", .int, "0"⟩,
   ⟨.elasticsearchHttpClientFollowRedirects, "elasticsearch.http_client.follow_redirects",
      "es_http_client_follow_redirects", .bool, "true"⟩,
   ⟨.elasticsearchHttpClientVerifySsl, "elasticsearch.http_client.verify_ssl",
      "es_http_client_verify_ssl", .bool, "true"⟩,
   ⟨.elasticsearchHttpClientCaCertPath, "elasticsearch.http_client.ca_cert_path",
      "es_http_client_ca_cert_path", .string, ""⟩,
   ⟨.redisHost, "redis.host", "redis_host", .string, "localhost"⟩,
   ⟨.redisPort, "redis.port", "redis_port", .uint16, "6379"⟩,
   ⟨.redisDb, "redis.db", "redis_db", .int, "0"⟩,
   ⟨.redisUsername, "redis.username", "redis_username", .string, ""⟩,
   ⟨.redisPassword, "redis.password", "redis_password", .string, ""⟩,
   ⟨.redisPasswordEnv, "redis.password_env", "redis_password_env", .string, "REDIS_PASSWORD"⟩,
   ⟨.redisKeyPrefix, "redis.key_prefix", "redis_key_prefix", .string, "rec:item_cf:v1:neighbors"⟩,
   ⟨.redisConnectTimeoutMs, "redis.connect_timeout_ms", "redis_connect_timeout_ms", .int, "100"⟩,
   ⟨.redisSocketTimeoutMs, "redis.socket_timeout_ms", "redis_socket_timeout_ms", .int, "100"⟩,
   ⟨.redisPoolSize, "redis.pool_size", "redis_pool_size", .int, "4"⟩,
   ⟨.redisPoolWaitTimeoutMs, "redis.pool_wait_timeout_ms",
      "redis_pool_wait_timeout_ms", .int, "50"⟩,
   ⟨.redisRetryMaxAttempts, "redis.retry.max_attempts", "redis_retry_max_attempts", .int, "2"⟩,
   ⟨.redisRetryDelayMs, "redis.retry.delay_ms", "redis_retry_delay_ms", .int, "10"⟩,
   ⟨.redisCommandBatchSize, "redis.command_batch_size", "redis_command_batch_size", .int, "8"⟩]

end GlobalConfig

/-- The texts of the fields, and the name of the service. -/
structure GlobalConfig where
  values : List (GlobalConfig.Field × String) := []
  serviceName : String := ""
  deriving DecidableEq, Repr

namespace GlobalConfig

/-- The entry of a field. -/
def entryForField (field : Field) : Except ConfigError ConfigEntry :=
  match kConfigEntries.find? (·.field = field) with
  | some entry => .ok entry
  | none => .error (.invalidArgument "Unknown global config field")

/-- The entry of a key in a file. -/
def findEntryByYamlKey (key : String) : Option ConfigEntry :=
  kConfigEntries.find? (·.key = key)

/-- A command line may name a field by its argument or by its key. -/
def findEntryByArgumentName (argumentName : String) : Option ConfigEntry :=
  kConfigEntries.find? fun entry => entry.argumentName = argumentName ∨ entry.key = argumentName

/-! ### Values -/

/-- `std::from_chars` on a whole text. -/
def parseIntValue (key value : String) : Except ConfigError ℤ :=
  match Text.readSigned (-2 ^ 31) (2 ^ 31 - 1) value with
  | some parsed => .ok parsed
  | none => .error (.invalidArgument ("Invalid integer config value for key: " ++ key))

/-- A text with its ASCII letters in lower case. -/
def lowercase (value : String) : String :=
  value.map Char.toLower

/-- The truth value that a text stands for. -/
def parseBoolValue (key value : String) : Except ConfigError Bool :=
  if lowercase value ∈ ["true", "1", "yes", "on"] then .ok true
  else if lowercase value ∈ ["false", "0", "no", "off"] then .ok false
  else .error (.invalidArgument ("Invalid boolean config value for key: " ++ key))

/-- The largest double. -/
def doubleMax : ℕ := (2 ^ 53 - 1) * 2 ^ 971

/-- The least number that is rounded to an infinity, halfway from the largest double to the next power
of two. -/
def doubleOverflow : ℕ := 2 ^ 1024 - 2 ^ 970

/-- The least number that rounds to a double of full precision. -/
def doubleNormal : NNRat := (2 ^ 54 - 1 : ℕ) / (2 ^ 1076 : ℕ)

/-- A number that is not a double of lower precision, and not rounded to one of full precision. -/
def underflows (magnitude : NNRat) : Bool :=
  magnitude < doubleNormal ∧ (magnitude * (2 ^ 1074 : ℕ)).den ≠ 1

/-- What `std::stod` makes of a text. -/
inductive Stod where
  | invalidArgument
  | outOfRange
  | parsed (value : Decimal.Signed) (rest : List Char)
  deriving DecidableEq

/-- `std::stod`; an infinity or no number counts as no number here.  A number is kept as it is written,
unless it is above the largest double. -/
def stod (value : String) : Stod :=
  match Decimal.read value.toList with
  | none => .invalidArgument
  | some (parsed, rest) =>
    if (doubleOverflow : NNRat) ≤ parsed.magnitude ∨ underflows parsed.magnitude then .outOfRange
    else .parsed { parsed with magnitude := min parsed.magnitude doubleMax } rest

/-- The number that a whole text stands for. -/
def parseDoubleValue (key value : String) : Except ConfigError Decimal.Signed :=
  match stod value with
  | .invalidArgument => .error (.invalidArgument ("Invalid double config value for key: " ++ key))
  | .outOfRange => .error (.outOfRange ("Double config value is out of range for key: " ++ key))
  | .parsed parsed rest =>
    if rest ≠ [] then .error (.invalidArgument ("Invalid double config value for key: " ++ key))
    else .ok parsed

/-- `std::to_string` of a double. -/
def toStringDouble (value : Decimal.Signed) : String :=
  String.ofList (Decimal.print 6 value)

/-- The largest `uint16_t`. -/
def maxUint16 : ℤ := 65535

/-- The text under which a value is stored. -/
def canonicalizeValue (entry : ConfigEntry) (value : String) : Except ConfigError String :=
  match entry.valueType with
  | .string => .ok value
  | .int => (parseIntValue entry.key value).map toString
  | .double => (parseDoubleValue entry.key value).map toStringDouble
  | .uint16 => do
    let parsed ← parseIntValue entry.key value
    if parsed < 0 ∨ maxUint16 < parsed then
      .error (.outOfRange ("Config value is outside uint16_t range for key: " ++ entry.key))
    else .ok (toString parsed)
  | .bool => (parseBoolValue entry.key value).map fun parsed => if parsed then "true" else "false"

/-! ### Setting -/

/-- The configuration with a text stored for a field. -/
def store (config : GlobalConfig) (field : Field) (text : String) : GlobalConfig :=
  { config with values := Keyed.upsert field (fun _ => text) config.values }

/-- `Set`. -/
def set (config : GlobalConfig) (field : Field) (value : String) :
    Except ConfigError GlobalConfig := do
  let entry ← entryForField field
  let text ← canonicalizeValue entry value
  .ok (config.store field text)

/-- `ResetToDefaults`, the constructor. -/
def resetToDefaults : Except ConfigError GlobalConfig :=
  kConfigEntries.foldlM (fun config entry => config.set entry.field entry.defaultValue) {}

/-! ### Reading -/

/-- The key of a field, for messages. -/
def key (field : Field) : String :=
  ((kConfigEntries.find? (·.field = field)).map (·.key)).getD ""

/-- The text of a field. -/
def getString (config : GlobalConfig) (field : Field) : Except ConfigError String :=
  match config.values.lookup field with
  | some value => .ok value
  | none => .error (.invalidArgument ("Global config field has no value: " ++ key field))

/-- The integer of a field. -/
def getInt (config : GlobalConfig) (field : Field) : Except ConfigError ℤ := do
  let value ← config.getString field
  parseIntValue (key field) value

/-- The number of a field. -/
def getDouble (config : GlobalConfig) (field : Field) : Except ConfigError Decimal.Signed := do
  let value ← config.getString field
  parseDoubleValue (key field) value

/-- The integer of a field that must not be negative. -/
def getNonNegativeInt (config : GlobalConfig) (field : Field) : Except ConfigError ℤ := do
  let value ← config.getInt field
  if value < 0 then .error (.invalidArgument (key field ++ " must not be negative"))
  else .ok value

/-- The integer of a field that must be positive. -/
def getPositiveInt (config : GlobalConfig) (field : Field) : Except ConfigError ℤ := do
  let value ← config.getNonNegativeInt field
  if value ≤ 0 then .error (.invalidArgument (key field ++ " must be greater than 0"))
  else .ok value

/-- The number of a field that must be positive. -/
def getPositiveDouble (config : GlobalConfig) (field : Field) :
    Except ConfigError Decimal.Signed := do
  let value ← config.getDouble field
  if value.value ≤ 0 then .error (.invalidArgument (key field ++ " must be greater than 0"))
  else .ok value

/-- The integer of a field that must be a `uint16_t`. -/
def getUInt16 (config : GlobalConfig) (field : Field) : Except ConfigError ℤ := do
  let parsed ← config.getInt field
  if parsed < 0 ∨ maxUint16 < parsed then
    .error (.outOfRange ("Config value is outside uint16_t range for key: " ++ key field))
  else .ok parsed

/-- The truth value of a field. -/
def getBool (config : GlobalConfig) (field : Field) : Except ConfigError Bool := do
  let value ← config.getString field
  parseBoolValue (key field) value

/-- The host and the port of two fields. -/
def getAddress (config : GlobalConfig) (hostField portField : Field) :
    Except ConfigError String := do
  let host ← config.getString hostField
  let port ← config.getUInt16 portField
  .ok (host ++ ":" ++ toString port)

/-- The path of the file that was read. -/
def getConfigPath (config : GlobalConfig) : Except ConfigError String :=
  config.getString .configPath

/-- The text of every field, by key. -/
def getResolvedValues (config : GlobalConfig) : Except ConfigError (List (String × String)) :=
  kConfigEntries.mapM fun entry => (config.getString entry.field).map fun value => (entry.key, value)

/-! ### Entries -/

theorem nodup_map_field :
  (kConfigEntries.map ConfigEntry.field).Nodup
  := by
  decide +kernel

/-- Every entry is found by its field. -/
theorem entryForField_eq_ok {entry : ConfigEntry} (h : entry ∈ kConfigEntries) :
  entryForField entry.field = .ok entry
  := by
  rw [entryForField, Keyed.find?_eq_some_of_nodup nodup_map_field h]

theorem key_eq {entry : ConfigEntry} (h : entry ∈ kConfigEntries) :
  key entry.field = entry.key
  := by
  rw [key, Keyed.find?_eq_some_of_nodup nodup_map_field h, Option.map_some, Option.getD_some]

/-- Every default passes its own check. -/
theorem canonicalizeValue_defaultValue {entry : ConfigEntry} (h : entry ∈ kConfigEntries) :
  ∃ text, canonicalizeValue entry entry.defaultValue = .ok text
  := by
  have hall : ∀ entry ∈ kConfigEntries,
      (canonicalizeValue entry entry.defaultValue).isOk = true := by decide +kernel
  have hok := hall entry h
  cases htext : canonicalizeValue entry entry.defaultValue with
  | error e =>
      rw [htext] at hok
      cases hok
  | ok text => exact ⟨text, rfl⟩

/-- A text that passes the check is stored as rewritten. -/
theorem set_eq (config : GlobalConfig) {entry : ConfigEntry} (hentry : entry ∈ kConfigEntries)
    {value text : String} (h : canonicalizeValue entry value = .ok text) :
  config.set entry.field value = .ok (config.store entry.field text)
  := by
  simp only [set, entryForField_eq_ok hentry, h, bind, Except.bind]

theorem exists_of_set_eq_ok {config config' : GlobalConfig} {entry : ConfigEntry}
    (hentry : entry ∈ kConfigEntries) {value : String}
    (h : config.set entry.field value = .ok config') :
  ∃ text, canonicalizeValue entry value = .ok text ∧ config' = config.store entry.field text
  := by
  rw [set, entryForField_eq_ok hentry] at h
  obtain ⟨_, hfound, h⟩ := Batch.of_bind_eq_ok h
  obtain rfl := Except.ok.inj hfound
  obtain ⟨text, htext, h⟩ := Batch.of_bind_eq_ok h
  exact ⟨text, htext, (Except.ok.inj h).symm⟩

/-- The text of a field after one has been stored. -/
theorem getString_store (config : GlobalConfig) (field field' : Field) (text : String) :
  (config.store field text).getString field'
    = if field' = field then .ok text else config.getString field'
  := by
  rw [getString, store, Keyed.lookup_upsert]
  by_cases h : field' = field
  · rw [if_pos h, if_pos h]
  · rw [if_neg h, if_neg h]
    rfl

theorem store_store (config : GlobalConfig) (field : Field) (text : String) :
  (config.store field text).store field text = config.store field text
  := by
  simp only [store]
  congr 1
  apply Keyed.upsert_of_lookup_eq
  rw [Keyed.lookup_upsert, if_pos rfl]

/-! ### Numbers with a fractional part -/

/-- A number that is read is at most the largest double. -/
theorem magnitude_parseDoubleValue_le {key value : String} {v : Decimal.Signed}
    (h : parseDoubleValue key value = .ok v) :
  v.magnitude ≤ (doubleMax : NNRat)
  := by
  rw [parseDoubleValue, stod] at h
  split at h
  · cases h
  · cases h
  next heq =>
    split at heq
    · cases heq
    · split at heq
      · cases heq
      · obtain ⟨rfl, rfl⟩ := Stod.parsed.inj heq
        split at h
        · cases h
        · obtain rfl := Except.ok.inj h
          apply min_le_right

/-- A number of six decimals does not underflow. -/
theorem not_underflows_round (v : Decimal.Signed) :
  ¬ underflows (Decimal.round 6 v).magnitude = true
  := by
  rw [underflows, decide_eq_true_iff]
  rintro ⟨hsmall, hfraction⟩
  rcases Decimal.magnitude_round_eq_zero_or 6 v with hzero | hunit
  · rw [hzero] at hfraction
    exact hfraction (by decide +kernel)
  · have hnormal : ((doubleNormal : NNRat) : ℚ) ≤ 1 / 10 ^ 6 := by decide +kernel
    exact absurd (hnormal.trans hunit) (not_le.mpr (NNRat.coe_lt_coe.mpr hsmall))

/-- A number is read from the text that it is written as. -/
theorem parseDoubleValue_toStringDouble {key value : String} {v : Decimal.Signed}
    (h : parseDoubleValue key value = .ok v) (key' : String) :
  parseDoubleValue key' (toStringDouble v) = .ok (Decimal.round 6 v)
  := by
  have hmax : (Decimal.round 6 v).magnitude ≤ (doubleMax : NNRat) :=
    Decimal.magnitude_round_le (magnitude_parseDoubleValue_le h)
  have hbound : (doubleMax : NNRat) < doubleOverflow := by decide +kernel
  have hrange : ¬ ((doubleOverflow : NNRat) ≤ (Decimal.round 6 v).magnitude
      ∨ underflows (Decimal.round 6 v).magnitude = true) := by
    rintro (hlarge | hsmall)
    · exact hlarge.not_gt (hmax.trans_lt hbound)
    · exact not_underflows_round v hsmall
  rw [parseDoubleValue, stod, toStringDouble, String.toList_ofList, Decimal.read_print (by norm_num)]
  simp only [if_neg hrange, min_eq_left hmax]
  rfl

/-- The number read is the rounded one. -/
theorem getDouble_store {key text : String} {v : Decimal.Signed}
    (hv : parseDoubleValue key text = .ok v) (config : GlobalConfig) (field : Field) :
  (config.store field (toStringDouble v)).getDouble field = .ok (Decimal.round 6 v)
  := by
  simp only [getDouble, getString_store, if_true, bind, Except.bind]
  exact parseDoubleValue_toStringDouble hv _

theorem getPositiveDouble_store {key text : String} {v : Decimal.Signed}
    (hv : parseDoubleValue key text = .ok v) (config : GlobalConfig) (field : Field) :
  (∃ w, (config.store field (toStringDouble v)).getPositiveDouble field = .ok w)
    ↔ 0 < (Decimal.round 6 v).value
  := by
  simp only [getPositiveDouble, getDouble_store hv, bind, Except.bind]
  by_cases h : (Decimal.round 6 v).value ≤ 0
  · simp [h]
  · simp [h, lt_of_not_ge h]

/-- The text under which a number is stored is its own rewritten text. -/
theorem canonicalizeValue_toStringDouble {entry : ConfigEntry} (htype : entry.valueType = .double)
    {text : String} {v : Decimal.Signed} (hv : parseDoubleValue entry.key text = .ok v) :
  canonicalizeValue entry (toStringDouble v) = .ok (toStringDouble v)
  := by
  simp only [canonicalizeValue, htype, parseDoubleValue_toStringDouble hv, Except.map]
  rw [toStringDouble, toStringDouble, Decimal.print_round]

/-- The number has at most six decimals. -/
def HasSixDecimals (v : Decimal.Signed) : Prop :=
  ∃ n : ℤ, 10 ^ 6 * v.value = n

/-- A number set is the number read, and positive when it is, exactly when it has at most six
decimals.  Its own text sets the same value, and no other number of six decimals is read as the
same. -/
theorem getDouble_set_iff (config : GlobalConfig) {entry : ConfigEntry}
    (hentry : entry ∈ kConfigEntries) (htype : entry.valueType = .double) {text : String}
    {v : Decimal.Signed} (hv : parseDoubleValue entry.key text = .ok v) :
  ∃ config' stored, config.set entry.field text = .ok config'
    ∧ config'.getString entry.field = .ok stored
    ∧ (((∃ w, config'.getDouble entry.field = .ok w ∧ w.value = v.value)
          ∧ ((∃ w, config'.getPositiveDouble entry.field = .ok w) ↔ 0 < v.value)
          ∧ config'.set entry.field stored = .ok config')
        ↔ HasSixDecimals v)
    ∧ (HasSixDecimals v → ∀ text' v', parseDoubleValue entry.key text' = .ok v' →
        HasSixDecimals v' → v'.value ≠ v.value →
        ∃ config'', config.set entry.field text' = .ok config''
          ∧ config''.getDouble entry.field ≠ config'.getDouble entry.field)
  := by
  have hset : ∀ {text v}, parseDoubleValue entry.key text = .ok v →
      config.set entry.field text = .ok (config.store entry.field (toStringDouble v)) := by
    intro text v hv
    apply set_eq config hentry
    simp only [canonicalizeValue, htype, hv, Except.map]
  refine ⟨_, toStringDouble v, hset hv, ?_, ?_, ?_⟩
  · rw [getString_store, if_pos rfl]
  · rw [getDouble_store hv, getPositiveDouble_store hv, HasSixDecimals,
      ← Decimal.value_round_eq_iff]
    constructor
    · rintro ⟨⟨w, hw, heq⟩, -, -⟩
      rwa [← Except.ok.inj hw] at heq
    · intro heq
      refine ⟨⟨_, rfl, heq⟩, by rw [heq], ?_⟩
      rw [set_eq _ hentry (canonicalizeValue_toStringDouble htype hv), store_store]
  · intro hsix text' v' hv' hsix' hne
    refine ⟨_, hset hv', ?_⟩
    rw [getDouble_store hv, getDouble_store hv']
    intro heq
    apply hne
    rw [← (Decimal.value_round_eq_iff 6 v).mpr hsix, ← (Decimal.value_round_eq_iff 6 v').mpr hsix',
      Except.ok.inj heq]

/-- A multiplier of a quarter is read as it is set. -/
theorem getDouble_set_iff_quarter :
  ∃ config', set {} .retrieverItemCfScoreMultiplier "0.25" = .ok config'
    ∧ ∃ w, config'.getDouble .retrieverItemCfScoreMultiplier = .ok w ∧ w.value = 1 / 4
  := by
  have hparse : parseDoubleValue "retriever_item_cf.score_multiplier" "0.25"
      = .ok ⟨false, 1 / 4⟩ := by
    decide +kernel
  obtain ⟨config', _, hset, -, hiff, -⟩ := @getDouble_set_iff {}
    ⟨.retrieverItemCfScoreMultiplier, "retriever_item_cf.score_multiplier",
      "item_cf_score_multiplier", .double, "1.0"⟩ (by decide) rfl _ _ hparse
  obtain ⟨⟨w, hw, hvalue⟩, -⟩ := hiff.mpr ⟨250000, by decide +kernel⟩
  refine ⟨config', hset, w, hw, hvalue.trans ?_⟩
  decide +kernel

/-- A small positive multiplier is stored as zero and then refused. -/
theorem getDouble_set_small :
  (do
      let config ← resetToDefaults
      let config ← config.set .retrieverItemCfScoreMultiplier "0.0000004"
      config.getPositiveDouble .retrieverItemCfScoreMultiplier)
      = .error (.invalidArgument "retriever_item_cf.score_multiplier must be greater than 0")
    ∧ ¬ (∀ (config : GlobalConfig) (entry : ConfigEntry) (text : String) (v : Decimal.Signed),
      entry ∈ kConfigEntries → entry.valueType = .double →
      parseDoubleValue entry.key text = .ok v →
      ∃ config', config.set entry.field text = .ok config'
        ∧ (∃ w, config'.getDouble entry.field = .ok w ∧ w.value = v.value)
        ∧ ((∃ w, config'.getPositiveDouble entry.field = .ok w) ↔ 0 < v.value))
  := by
  constructor
  · decide +kernel
  · intro h
    have hparse : parseDoubleValue "retriever_item_cf.score_multiplier" "0.0000004"
        = .ok ⟨false, 4 / 10 ^ 7⟩ := by
      decide +kernel
    obtain ⟨config', hset, ⟨w, hw, hvalue⟩, -⟩ := h {}
      ⟨.retrieverItemCfScoreMultiplier, "retriever_item_cf.score_multiplier",
        "item_cf_score_multiplier", .double, "1.0"⟩ "0.0000004" _ (by decide) rfl hparse
    have hread : (do
        let config ← set {} .retrieverItemCfScoreMultiplier "0.0000004"
        config.getDouble .retrieverItemCfScoreMultiplier) = .ok ⟨false, 0⟩ := by
      decide +kernel
    simp only [hset, bind, Except.bind] at hread
    rw [hw] at hread
    rw [Except.ok.inj hread] at hvalue
    revert hvalue
    decide +kernel

end GlobalConfig
