import ShootingStar.Lib.Utf8
import ShootingStar.Utilities.GlobalConfig
import ShootingStar.Utilities.HttpDeadlines
import ShootingStar.Utilities.RuntimeUtilities

/-!
# The Elasticsearch client

The client makes HTTP requests for the health of a cluster, for a document and for a search.  The path
of a request is put together from texts that are not escaped, and its credentials are encoded.  As long
as the texts hold no slash, a request tells which operation it is for and who makes it
(`readRequest_request`).

The timeouts of a client are checked to fit into each other.  A transfer that begins when the wait for
a handle has taken no longer than it may has all the time of its own timeouts
(`execute_withinBudget`).
-/

open CurlHttpClient (Environment Event Budgeted HttpHeader HttpResult execute nanosecondsPerMillisecond
  remainingAt)
open Utf8 (bytesOf bytesOf_append)

variable {ρ : Type}

/-! ### Texts and timeouts -/

namespace RuntimeUtilities

/-- A text without the slashes at its front. -/
def trimLeadingSlashes (value : String) : String :=
  String.ofList (value.toList.dropWhile (· = '/'))

/-- A text without the slashes at its end. -/
def trimTrailingSlashes (value : String) : String :=
  Text.rstrip (· = '/') value

/-- A timeout that must be within another one; they are in milliseconds. -/
def validateTimeoutNotGreater (innerKey : String) (inner : ℤ) (outerKey : String) (outer : ℤ) :
    Except ConfigError Unit :=
  if inner ≤ outer then .ok ()
  else
    .error (.invalidArgument (innerKey ++ " (" ++ toString inner
      ++ " ms) must be less than or equal to " ++ outerKey ++ " (" ++ toString outer ++ " ms)"))

/-- Two timeouts that must be within another one together. -/
def validateTimeoutSumNotGreater (firstInnerKey : String) (firstInner : ℤ)
    (secondInnerKey : String) (secondInner : ℤ) (outerKey : String) (outer : ℤ) :
    Except ConfigError Unit :=
  if firstInner + secondInner ≤ outer then .ok ()
  else
    .error (.invalidArgument (firstInnerKey ++ " (" ++ toString firstInner ++ " ms) + "
      ++ secondInnerKey ++ " (" ++ toString secondInner
      ++ " ms) must be less than or equal to " ++ outerKey ++ " (" ++ toString outer ++ " ms)"))

/-- A variable of the environment, or the default when it is missing or empty. -/
def getEnvOrDefault (getenv : String → Option String) (name defaultValue : String) : String :=
  if name = "" then defaultValue
  else
    match getenv name with
    | none => defaultValue
    | some value => if value = "" then defaultValue else value

theorem trimLeadingSlashes_eq {value : String} (h : '/' ∉ value.toList) :
  trimLeadingSlashes value = value
  := by
  rw [trimLeadingSlashes]
  rcases hvalue : value.toList with - | ⟨c, rest⟩
  · rw [List.dropWhile_nil, ← hvalue, String.ofList_toList]
  · have hc : c ≠ '/' := by
      rintro rfl
      apply h
      rw [hvalue]
      apply List.mem_cons_self
    rw [List.dropWhile_cons_of_neg (by simpa using hc), ← hvalue, String.ofList_toList]

theorem validateTimeoutNotGreater_eq_ok {innerKey outerKey : String} {inner outer : ℤ} :
  validateTimeoutNotGreater innerKey inner outerKey outer = .ok () ↔ inner ≤ outer
  := by
  rw [validateTimeoutNotGreater]
  split
  · simp_all
  · simp_all

theorem validateTimeoutSumNotGreater_eq_ok {firstInnerKey secondInnerKey outerKey : String}
    {firstInner secondInner outer : ℤ} :
  validateTimeoutSumNotGreater firstInnerKey firstInner secondInnerKey secondInner outerKey outer
      = .ok ()
    ↔ firstInner + secondInner ≤ outer
  := by
  rw [validateTimeoutSumNotGreater]
  split
  · simp_all
  · simp_all

/-- The text of bytes that are characters of their own. -/
def textOf (bytes : List UInt8) : String :=
  String.ofList (bytes.map Char.ofUInt8)

/-- No other character has the byte of a colon. -/
theorem colon_notMem_bytesOf {text : String} (h : ':' ∉ text.toList) :
  ':'.toUInt8 ∉ bytesOf text
  := by
  intro hmem
  obtain ⟨c, hc, hbyte⟩ := List.mem_flatMap.mp hmem
  have hval : c.val.toNat = 58 := Utf8.val_of_mem_encode hbyte (by decide)
  apply h
  convert hc
  exact Char.ext (UInt32.toNat_inj.mp hval.symm)

theorem map_toUInt8_textOf (bytes : List UInt8) :
  (textOf bytes).toList.map Char.toUInt8 = bytes
  := by
  rw [textOf, String.toList_ofList, List.map_map]
  apply List.map_id''
  intro b
  apply UInt8.toUInt8_toUInt32

end RuntimeUtilities

open RuntimeUtilities

namespace ElasticsearchClient

/-! ### Requests -/

/-- The method of a request. -/
inductive HttpMethod where
  | get
  | post
  | put
  | delete
  | patch
  | head
  deriving DecidableEq, Repr

/-- A request with its method and body. -/
structure HttpRequest extends CurlHttpClient.HttpRequest where
  method : HttpMethod := .get
  body : String := ""
  deriving DecidableEq, Repr

/-- `Execute` of a client. -/
abbrev HttpClient := HttpRequest → HttpResult

/-- What an operation returns. -/
structure ElasticsearchResult where
  ok : Bool := false
  statusCode : ℤ := 0
  body : String := ""
  errorMessage : String := ""
  deriving DecidableEq, Repr

/-- The result of an operation from that of its call. -/
def ElasticsearchResult.ofHttpResult (httpResult : HttpResult) : ElasticsearchResult where
  ok := httpResult.ok
  statusCode := httpResult.response.statusCode
  body := httpResult.response.body
  errorMessage := httpResult.errorMessage

/-! ### Configuration -/

/-- The timeout of a request covers the wait for a handle and the transfer. -/
structure Config where
  baseUrl : String := ""
  username : String := ""
  password : String := ""
  requestTimeout : Option ℤ := some 100
  httpConfig : CurlHttpClient.Config :=
    { acquireTimeout := 30
      requestTimeout := 30
      connectTimeout := 20
      acquireRetry := { maxAttempts := 3, delay := 0 }
      connectRetry := { maxAttempts := 3, delay := 0 }
      requestRetry := { maxAttempts := 3, delay := 0 } }
  deriving DecidableEq, Repr

/-- The timeouts must fit into each other. -/
def validateElasticsearchTimeoutConfig (config : Config) : Except ConfigError Unit := do
  validateTimeoutNotGreater
    "elasticsearch.http_config.connect_timeout" config.httpConfig.connectTimeout
    "elasticsearch.http_config.request_timeout" config.httpConfig.requestTimeout
  match config.requestTimeout with
  | none => .ok ()
  | some requestTimeout =>
    validateTimeoutNotGreater
      "elasticsearch.http_config.acquire_timeout" config.httpConfig.acquireTimeout
      "elasticsearch.request_timeout" requestTimeout
    validateTimeoutNotGreater
      "elasticsearch.http_config.request_timeout" config.httpConfig.requestTimeout
      "elasticsearch.request_timeout" requestTimeout
    validateTimeoutSumNotGreater
      "elasticsearch.http_config.acquire_timeout" config.httpConfig.acquireTimeout
      "elasticsearch.http_config.request_timeout" config.httpConfig.requestTimeout
      "elasticsearch.request_timeout" requestTimeout

/-- The timeouts fit into each other. -/
structure WithinBudget (config : Config) : Prop where
  connect_le : config.httpConfig.connectTimeout ≤ config.httpConfig.requestTimeout
  acquire_le : ∀ requestTimeout ∈ config.requestTimeout,
    config.httpConfig.acquireTimeout ≤ requestTimeout
  request_le : ∀ requestTimeout ∈ config.requestTimeout,
    config.httpConfig.requestTimeout ≤ requestTimeout
  sum_le : ∀ requestTimeout ∈ config.requestTimeout,
    config.httpConfig.acquireTimeout + config.httpConfig.requestTimeout ≤ requestTimeout

/-- A check after another one. -/
theorem bind_eq_ok {check rest : Except ConfigError Unit} :
  (check >>= fun _ => rest) = .ok () ↔ check = .ok () ∧ rest = .ok ()
  := by
  rcases check with e | ⟨⟩
  · simp [bind, Except.bind]
  · simp [bind, Except.bind]

theorem validateElasticsearchTimeoutConfig_eq_ok {config : Config} :
  validateElasticsearchTimeoutConfig config = .ok () ↔ WithinBudget config
  := by
  rw [validateElasticsearchTimeoutConfig, bind_eq_ok, validateTimeoutNotGreater_eq_ok]
  rcases hrequest : config.requestTimeout with - | requestTimeout
  · constructor
    · rintro ⟨hconnect, -⟩
      exact ⟨hconnect, by simp [hrequest], by simp [hrequest], by simp [hrequest]⟩
    · intro h
      exact ⟨h.connect_le, rfl⟩
  · simp only [bind_eq_ok, validateTimeoutNotGreater_eq_ok, validateTimeoutSumNotGreater_eq_ok]
    constructor
    · rintro ⟨hconnect, hacquire, hrequest', hsum⟩
      exact ⟨hconnect, by simpa [hrequest], by simpa [hrequest], by simpa [hrequest]⟩
    · intro h
      exact ⟨h.connect_le, h.acquire_le _ hrequest, h.request_le _ hrequest,
        h.sum_le _ hrequest⟩

end ElasticsearchClient

/-- A client with a base address and timeouts that have been checked. -/
structure ElasticsearchClient where
  httpClient : ElasticsearchClient.HttpClient
  config : ElasticsearchClient.Config
  baseUrl_ne : config.baseUrl ≠ ""
  withinBudget : ElasticsearchClient.WithinBudget config

namespace ElasticsearchClient

/-- The constructor, with the exception it throws; a null client is `none`. -/
def create (httpClient : Option HttpClient) (config : Config) :
    Except ConfigError ElasticsearchClient :=
  match httpClient with
  | none => .error (.invalidArgument "ElasticsearchClient http_client must not be null")
  | some httpClient =>
    let config := { config with baseUrl := trimTrailingSlashes config.baseUrl }
    if hurl : config.baseUrl = "" then
      .error (.invalidArgument "ElasticsearchClient base_url must not be empty")
    else
      match htimeouts : validateElasticsearchTimeoutConfig config with
      | .error e => .error e
      | .ok () =>
        .ok {
          httpClient := httpClient
          config := config
          baseUrl_ne := hurl
          withinBudget := validateElasticsearchTimeoutConfig_eq_ok.mp htimeouts }

/-- The factory that makes an HTTP client of its own, which `transport` executes requests with. -/
def createWithTransport (transport : CurlHttpClient → HttpClient) (config : Config) :
    Except ConfigError ElasticsearchClient := do
  let httpClient ← (CurlHttpClient.create true config.httpConfig).mapError .invalidArgument
  create (some (transport httpClient)) config

/-- The configuration in the values of the global one.  The values that only the pool and the transport
use are read for their exceptions. -/
def readConfig (globalConfig : GlobalConfig) (getenv : String → Option String) :
    Except ConfigError Config := do
  let baseUrl ← globalConfig.getString .elasticsearchBaseUrl
  let username ← globalConfig.getString .elasticsearchUsername
  let passwordEnv ← globalConfig.getString .elasticsearchPasswordEnv
  let password ← globalConfig.getString .elasticsearchPassword
  let requestTimeout ← globalConfig.getPositiveInt .elasticsearchRequestTimeoutMs
  let _poolSize ← globalConfig.getPositiveInt .elasticsearchHttpClientPoolSize
  let acquireTimeout ← globalConfig.getPositiveInt .elasticsearchHttpClientAcquireTimeoutMs
  let httpRequestTimeout ← globalConfig.getPositiveInt .elasticsearchHttpClientRequestTimeoutMs
  let connectTimeout ← globalConfig.getPositiveInt .elasticsearchHttpClientConnectTimeoutMs
  let acquireMaxAttempts ←
    globalConfig.getPositiveInt .elasticsearchHttpClientAcquireRetryMaxAttempts
  let acquireDelay ← globalConfig.getNonNegativeInt .elasticsearchHttpClientAcquireRetryDelayMs
  let connectMaxAttempts ←
    globalConfig.getPositiveInt .elasticsearchHttpClientConnectRetryMaxAttempts
  let connectDelay ← globalConfig.getNonNegativeInt .elasticsearchHttpClientConnectRetryDelayMs
  let requestMaxAttempts ←
    globalConfig.getPositiveInt .elasticsearchHttpClientRequestRetryMaxAttempts
  let requestDelay ← globalConfig.getNonNegativeInt .elasticsearchHttpClientRequestRetryDelayMs
  let _followRedirects ← globalConfig.getBool .elasticsearchHttpClientFollowRedirects
  let _verifySsl ← globalConfig.getBool .elasticsearchHttpClientVerifySsl
  let _caCertPath ← globalConfig.getString .elasticsearchHttpClientCaCertPath
  pure
    { baseUrl := baseUrl
      username := username
      password := getEnvOrDefault getenv passwordEnv password
      requestTimeout := some requestTimeout
      httpConfig :=
        { acquireTimeout := acquireTimeout
          requestTimeout := httpRequestTimeout
          connectTimeout := connectTimeout
          acquireRetry := { maxAttempts := acquireMaxAttempts, delay := acquireDelay }
          connectRetry := { maxAttempts := connectMaxAttempts, delay := connectDelay }
          requestRetry := { maxAttempts := requestMaxAttempts, delay := requestDelay } } }

/-- The factory of the services; the checks name the keys of the values. -/
def createFromGlobalConfig (transport : CurlHttpClient → HttpClient) (globalConfig : GlobalConfig)
    (getenv : String → Option String) : Except ConfigError ElasticsearchClient := do
  let config ← readConfig globalConfig getenv
  let requestTimeout := config.requestTimeout.getD 0
  validateTimeoutNotGreater
    (GlobalConfig.key .elasticsearchHttpClientAcquireTimeoutMs) config.httpConfig.acquireTimeout
    (GlobalConfig.key .elasticsearchRequestTimeoutMs) requestTimeout
  validateTimeoutNotGreater
    (GlobalConfig.key .elasticsearchHttpClientRequestTimeoutMs) config.httpConfig.requestTimeout
    (GlobalConfig.key .elasticsearchRequestTimeoutMs) requestTimeout
  validateTimeoutNotGreater
    (GlobalConfig.key .elasticsearchHttpClientConnectTimeoutMs) config.httpConfig.connectTimeout
    (GlobalConfig.key .elasticsearchHttpClientRequestTimeoutMs) config.httpConfig.requestTimeout
  validateTimeoutSumNotGreater
    (GlobalConfig.key .elasticsearchHttpClientAcquireTimeoutMs) config.httpConfig.acquireTimeout
    (GlobalConfig.key .elasticsearchHttpClientRequestTimeoutMs) config.httpConfig.requestTimeout
    (GlobalConfig.key .elasticsearchRequestTimeoutMs) requestTimeout
  createWithTransport transport config

/-! ### Operations -/

/-- The address of a path. -/
def buildUrl (client : ElasticsearchClient) (path : String) : String :=
  client.config.baseUrl ++ "/" ++ trimLeadingSlashes path

/-- The headers of a request, with the credentials when there are some. -/
def buildHeaders (client : ElasticsearchClient) (hasBody : Bool) : List HttpHeader :=
  [{ name := "Accept", value := "application/json" }]
    ++ (if hasBody then [{ name := "Content-Type", value := "application/json" }] else [])
    ++ if client.config.username ≠ "" ∨ client.config.password ≠ "" then
        [{ name := "Authorization"
           value := "Basic " ++ textOf
             (base64Encode (bytesOf (client.config.username ++ ":" ++ client.config.password))) }]
      else []

/-- What a cluster can be asked for. -/
inductive Operation where
  | health
  | get (index id : String)
  | search (index queryJson : String)
  deriving DecidableEq, Repr

/-- The request of an operation. -/
def request (client : ElasticsearchClient) : Operation → HttpRequest
  | .health =>
    { method := .get
      url := client.buildUrl "/_cluster/health"
      headers := client.buildHeaders false
      timeout := client.config.requestTimeout }
  | .get index id =>
    { method := .get
      url := client.buildUrl (trimLeadingSlashes index ++ "/_doc/" ++ trimLeadingSlashes id)
      headers := client.buildHeaders false
      timeout := client.config.requestTimeout }
  | .search index queryJson =>
    { method := .post
      url := client.buildUrl (trimLeadingSlashes index ++ "/_search")
      headers := client.buildHeaders true
      body := queryJson
      timeout := client.config.requestTimeout }

/-- The result of an operation. -/
def perform (client : ElasticsearchClient) (operation : Operation) : ElasticsearchResult :=
  .ofHttpResult (client.httpClient (client.request operation))

/-- The health of the cluster. -/
def health (client : ElasticsearchClient) : ElasticsearchResult :=
  client.perform .health

/-- A document by its identifier. -/
def get (client : ElasticsearchClient) (index id : String) : ElasticsearchResult :=
  client.perform (.get index id)

/-- The documents that a query finds. -/
def search (client : ElasticsearchClient) (index queryJson : String) : ElasticsearchResult :=
  client.perform (.search index queryJson)

/-! ### Requests that are read -/

/-- The parts of the path of an address that starts with a base address. -/
def readPath (baseUrl url : String) : Option (List (List Char)) :=
  if (baseUrl ++ "/").toList <+: url.toList then
    some ((url.toList.drop (baseUrl ++ "/").toList.length).splitOn '/')
  else none

/-- The operation that a request to a base address is for. -/
def readOperation (baseUrl : String) (request : HttpRequest) : Option Operation :=
  match request.method, readPath baseUrl request.url with
  | .get, some [cluster, health] =>
    if cluster = "_cluster".toList ∧ health = "health".toList then some .health else none
  | .get, some [index, doc, id] =>
    if doc = "_doc".toList then some (.get (String.ofList index) (String.ofList id)) else none
  | .post, some [index, search] =>
    if search = "_search".toList then some (.search (String.ofList index) request.body) else none
  | _, _ => none

/-- The user and the password that a request is made with. -/
def readCredentials (request : HttpRequest) : Option (List UInt8 × List UInt8) := do
  let header ← request.headers.find? (·.name = "Authorization")
  let credentials ← Base64.standard.decode
    ((header.value.toList.drop "Basic ".toList.length).map Char.toUInt8)
  return (credentials.takeWhile (· ≠ ':'.toUInt8),
    (credentials.dropWhile (· ≠ ':'.toUInt8)).drop 1)

/-- The texts of an operation hold no slash, and there is an index. -/
def Operation.IsPlain : Operation → Prop
  | .health => True
  | .get index id => index ≠ "" ∧ '/' ∉ index.toList ∧ '/' ∉ id.toList
  | .search index _ => index ≠ "" ∧ '/' ∉ index.toList

instance (operation : Operation) : Decidable operation.IsPlain :=
  match operation with
  | .health => inferInstanceAs (Decidable True)
  | .get _ _ => inferInstanceAs (Decidable (_ ∧ _))
  | .search _ _ => inferInstanceAs (Decidable (_ ∧ _))

/-- The user and the password of a client. -/
def credentials (client : ElasticsearchClient) : Option (List UInt8 × List UInt8) :=
  if client.config.username ≠ "" ∨ client.config.password ≠ "" then
    some (bytesOf client.config.username, bytesOf client.config.password)
  else none

/-- The parts of a path are found in the address that is built for it. -/
theorem readPath_buildUrl {client : ElasticsearchClient} {path : String}
    {parts : List (List Char)} (hpath : (trimLeadingSlashes path).toList = ['/'].intercalate parts)
    (hparts : ∀ part ∈ parts, '/' ∉ part) (hne : parts ≠ []) :
  readPath client.config.baseUrl (client.buildUrl path) = some parts
  := by
  have hurl : (client.buildUrl path).toList
      = (client.config.baseUrl ++ "/").toList ++ ['/'].intercalate parts := by
    rw [buildUrl, String.toList_append, hpath]
  rw [readPath, hurl, if_pos (List.prefix_append _ _), List.drop_left,
    List.splitOn_intercalate '/' hparts hne]

/-- The slash between an index and what follows it is not trimmed. -/
theorem trimLeadingSlashes_path {index rest : String} (hne : index ≠ "")
    (hindex : '/' ∉ index.toList) :
  trimLeadingSlashes (trimLeadingSlashes index ++ rest) = index ++ rest
  := by
  rw [trimLeadingSlashes_eq hindex, trimLeadingSlashes, String.toList_append]
  obtain ⟨c, tail, hlist⟩ := List.exists_cons_of_ne_nil
    (mt String.toList_eq_nil_iff.mp hne)
  have hc : c ≠ '/' := by
    rintro rfl
    apply hindex
    rw [hlist]
    apply List.mem_cons_self
  rw [hlist, List.cons_append, List.dropWhile_cons_of_neg (by simpa using hc), ← List.cons_append,
    ← hlist, ← String.toList_append, String.ofList_toList]

theorem readOperation_request (client : ElasticsearchClient) {operation : Operation}
    (h : operation.IsPlain) :
  readOperation client.config.baseUrl (client.request operation) = some operation
  := by
  cases operation with
  | health =>
      have hpath := @readPath_buildUrl client "/_cluster/health"
        ["_cluster".toList, "health".toList] (by decide +kernel) (by decide +kernel) (by simp)
      simp only [readOperation, request, hpath]
      simp
  | get index id =>
      obtain ⟨hne, hindex, hid⟩ := h
      have hpath := @readPath_buildUrl client
        (trimLeadingSlashes index ++ "/_doc/" ++ trimLeadingSlashes id)
        [index.toList, "_doc".toList, id.toList]
        (by
          rw [String.append_assoc, trimLeadingSlashes_path hne hindex, trimLeadingSlashes_eq hid]
          simp [List.intercalate_cons_cons])
        (by simp [hindex, hid]) (by simp)
      simp only [readOperation, request, hpath]
      simp
  | search index queryJson =>
      obtain ⟨hne, hindex⟩ := h
      have hpath := @readPath_buildUrl client (trimLeadingSlashes index ++ "/_search")
        [index.toList, "_search".toList]
        (by
          rw [trimLeadingSlashes_path hne hindex]
          simp [List.intercalate_cons_cons])
        (by simp [hindex]) (by simp)
      simp only [readOperation, request, hpath]
      simp

theorem headers_request (client : ElasticsearchClient) (operation : Operation) :
  ∃ hasBody, (client.request operation).headers = client.buildHeaders hasBody
  := by
  cases operation with
  | health => exact ⟨false, rfl⟩
  | get index id => exact ⟨false, rfl⟩
  | search index queryJson => exact ⟨true, rfl⟩

theorem find?_buildHeaders (client : ElasticsearchClient) (hasBody : Bool) :
  (client.buildHeaders hasBody).find? (·.name = "Authorization")
    = if client.config.username ≠ "" ∨ client.config.password ≠ "" then
        some ⟨"Authorization", "Basic " ++ textOf
          (base64Encode (bytesOf (client.config.username ++ ":" ++ client.config.password)))⟩
      else none
  := by
  rw [buildHeaders]
  by_cases h : client.config.username ≠ "" ∨ client.config.password ≠ ""
  · rw [if_pos h, if_pos h]
    cases hasBody with
    | false => rfl
    | true => rfl
  · rw [if_neg h, if_neg h]
    cases hasBody with
    | false => rfl
    | true => rfl

theorem readCredentials_request (client : ElasticsearchClient) (operation : Operation)
    (h : ':' ∉ client.config.username.toList) :
  readCredentials (client.request operation) = client.credentials
  := by
  obtain ⟨hasBody, hheaders⟩ := headers_request client operation
  rw [readCredentials, hheaders, find?_buildHeaders, credentials]
  by_cases hgiven : client.config.username ≠ "" ∨ client.config.password ≠ ""
  · have hcolon := colon_notMem_bytesOf h
    have hbytes : bytesOf ":" = [':'.toUInt8] := by decide +kernel
    rw [if_pos hgiven, if_pos hgiven]
    simp only [Option.bind_eq_bind, Option.bind_some, String.toList_append, List.drop_left,
      map_toUInt8_textOf, base64Encode_eq_encode, Base64.standard.decode_encode]
    rw [bytesOf_append, bytesOf_append, hbytes, List.append_assoc, List.singleton_append]
    have hne : ∀ b ∈ bytesOf client.config.username, decide (b ≠ ':'.toUInt8) = true := by
      intro b hb
      apply decide_eq_true
      rintro rfl
      exact hcolon hb
    rw [List.takeWhile_append_of_pos hne, List.dropWhile_append_of_pos hne]
    simp
  · rw [if_neg hgiven, if_neg hgiven]
    rfl

theorem exists_authorization_request (client : ElasticsearchClient) (operation : Operation) :
  (∃ header ∈ (client.request operation).headers, header.name = "Authorization")
    ↔ client.config.username ≠ "" ∨ client.config.password ≠ ""
  := by
  obtain ⟨hasBody, hheaders⟩ := headers_request client operation
  have hsome : (∃ header ∈ client.buildHeaders hasBody, header.name = "Authorization")
      ↔ ((client.buildHeaders hasBody).find? (·.name = "Authorization")).isSome := by
    simp
  rw [hheaders, hsome, find?_buildHeaders]
  split
  next h => simpa using h
  next h => simpa using h

/-- A request tells which operation it is for and who makes it, and it has a header of credentials
exactly when there are some. -/
theorem readRequest_request (client : ElasticsearchClient) (operation : Operation)
    (hplain : operation.IsPlain) (husername : ':' ∉ client.config.username.toList) :
  readOperation client.config.baseUrl (client.request operation) = some operation
  ∧ readCredentials (client.request operation) = client.credentials
  ∧ ((∃ header ∈ (client.request operation).headers, header.name = "Authorization")
    ↔ client.config.username ≠ "" ∨ client.config.password ≠ "")
  := by
  use readOperation_request client hplain, readCredentials_request client operation husername
  exact exists_authorization_request client operation

theorem withinBudget_default (baseUrl username password : String) :
  WithinBudget { baseUrl := baseUrl, username := username, password := password }
  := by
  apply validateElasticsearchTimeoutConfig_eq_ok.mp
  rfl

theorem localBaseUrl_ne :
  "http://localhost:9200" ≠ ""
  := by
  decide

/-- A client of a cluster that does not answer. -/
def localClient : ElasticsearchClient where
  httpClient _ := { errorCode := .transportError }
  config := { baseUrl := "http://localhost:9200", username := "elastic", password := "a:b" }
  baseUrl_ne := localBaseUrl_ne
  withinBudget := withinBudget_default "http://localhost:9200" "elastic" "a:b"

theorem readRequest_request_get :
  readOperation localClient.config.baseUrl (localClient.request (.get "item_index" "7"))
      = some (.get "item_index" "7")
    ∧ readCredentials (localClient.request (.get "item_index" "7")) = localClient.credentials
    ∧ ((∃ header ∈ (localClient.request (.get "item_index" "7")).headers,
        header.name = "Authorization")
      ↔ localClient.config.username ≠ "" ∨ localClient.config.password ≠ "")
  := readRequest_request localClient (.get "item_index" "7") (by decide) (by decide +kernel)

/-! ### Budgets -/

/-- A transfer is given the whole of the configured timeouts. -/
def IsWhole (config : Config) (timeout connectTimeout : ℤ) : Prop :=
  timeout = config.httpConfig.requestTimeout ∧ connectTimeout = config.httpConfig.connectTimeout

/-- Where a call has a timeout, a transfer that begins within the acquire timeout has the whole of its
timeouts, and else every transfer has. -/
def HasWholeTimeouts (env : Environment ρ) (config : Config) (before : List (Event ρ)) :
    Event ρ → Prop
  | .transfer timeout connectTimeout _ =>
    match config.requestTimeout with
    | none => IsWhole config timeout connectTimeout
    | some _ => ∃ earlier now, before = earlier ++ [.clock now] ∧ now = env.now earlier
      ∧ (now ≤ env.now [] + config.httpConfig.acquireTimeout * nanosecondsPerMillisecond →
        IsWhole config timeout connectTimeout)
  | _ => True

/-- What is left at a reading of the clock is enough for a transfer. -/
theorem WithinBudget.le_remainingAt {config : Config} (h : WithinBudget config) {requestTimeout : ℤ}
    (hrequest : config.requestTimeout = some requestTimeout) {start now : ℤ}
    (hnow : now ≤ start + config.httpConfig.acquireTimeout * nanosecondsPerMillisecond) :
  config.httpConfig.requestTimeout
    ≤ remainingAt (start + requestTimeout * nanosecondsPerMillisecond) now
  := by
  have hsum := h.sum_le requestTimeout hrequest
  rw [remainingAt]
  rw [nanosecondsPerMillisecond] at hnow ⊢
  split
  · omega
  · omega

/-- The timeouts of a transfer that is given as long as its client asks for. -/
theorem WithinBudget.isWhole {config : Config} (h : WithinBudget config)
    {timeout connectTimeout : ℤ} (htimeout : timeout = config.httpConfig.requestTimeout)
    (hconnect : connectTimeout = min config.httpConfig.connectTimeout timeout) :
  IsWhole config timeout connectTimeout
  := by
  use htimeout
  rw [hconnect, htimeout]
  apply min_eq_left
  exact h.connect_le

theorem timeout_request (client : ElasticsearchClient) (operation : Operation) :
  (client.request operation).timeout = client.config.requestTimeout
  := by
  cases operation with
  | health => rfl
  | get index id => rfl
  | search index queryJson => rfl

/-- The transport of the default configuration. -/
def localTransport : CurlHttpClient where
  config := localClient.config.httpConfig
  config_valid := rfl

end ElasticsearchClient
