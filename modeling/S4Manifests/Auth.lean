import S4Manifests.Python.Base64
import S4Manifests.Python.UrlEncode
import S4Manifests.Read.Main
import S4Manifests.Seed.Insert
import S4Manifests.Seed.Manifest

/-!
How both scripts obtain their S4 client: a Keycloak password grant (`getJwt`, `getAuthToken`)
whose token STS exchanges for the credentials of a boto3 S3 client (`getS4Client`,
`getS4S3Client`). Keycloak, STS and boto3 are inputs: the answer each gives to the request.
-/

namespace S4Manifests

def getenv (environ : PyStr → Option PyStr) (name default : String) : PyStr :=
  (environ (pyStr name)).getD (pyStr default)

structure KeycloakSettings where
  url : PyStr
  realm : PyStr
  user : PyStr
  password : PyStr

def keycloakSettings (environ : PyStr → Option PyStr) : KeycloakSettings where
  url := getenv environ "KEYCLOAK_URL" "https://local-dsp.virtru.com:8443/auth"
  realm := getenv environ "REALM" "opentdf"
  user := getenv environ "KC_USER" "top-secret-gbr-bbb"
  password := getenv environ "PASSWORD" "testuser123"

def clientId : PyStr := pyStr "secure-object-proxy-test"

def clientSecret : PyStr := pyStr "secret"

def s4Endpoint : PyStr := pyStr "http://localhost:7070"

def s4Region : PyStr := pyStr "us-east-1"

def tokenUrl (url realm : PyStr) : PyStr :=
  url ++ pyStr "/realms/" ++ realm ++ pyStr "/protocol/openid-connect/token"

structure PostRequest where
  url : PyStr
  headers : List (PyStr × PyStr)
  data : List (PyStr × PyStr)
  verify : Bool

structure Response where
  statusCode : Nat
  reason : String
  url : String
  text : PyStr

def raiseForStatus (response : Response) : Except PyException Unit :=
  if 400 ≤ response.statusCode ∧ response.statusCode < 500 then
    .error (.raised (toString response.statusCode ++ " Client Error: " ++ response.reason ++
      " for url: " ++ response.url))
  else if 500 ≤ response.statusCode ∧ response.statusCode < 600 then
    .error (.raised (toString response.statusCode ++ " Server Error: " ++ response.reason ++
      " for url: " ++ response.url))
  else .ok ()

def responseJson (limits : JsonLimits) (response : Response) : Except PyException PyVal :=
  (jsonLoads limits response.text).mapError LoadsError.toPy

def getItem (value : PyVal) (key : String) : Except PyException PyVal :=
  match value with
  | .dict entries =>
    match entries.lookup (pyStr key) with
    | some item => .ok item
    | none => .error (.raised ("'" ++ key ++ "'"))
  | .list _ => .error (.typeError "list indices must be integers or slices, not str")
  | .str _ => .error (.typeError "string indices must be integers, not 'str'")
  | v => .error (.typeError ("'" ++ v.typeName ++ "' object is not subscriptable"))

def PyVal.get (value : PyVal) (key : String) : Except PyException PyVal :=
  match value with
  | .dict entries => .ok (dictGet entries (pyStr key) .none)
  | v => .error (.attributeError v.typeName "get")

def basicAuthorization (user password : PyStr) : Except PyException PyStr := do
  let bytes ← (utf8Encode (user ++ pyStr ":" ++ password)).mapError .unicodeEncodeError
  let token ← (utf8Decode (b64encode bytes)).mapError .unicodeDecodeError
  pure (pyStr "Basic " ++ token)

def tokenHeaders : Except PyException (List (PyStr × PyStr)) :=
  (basicAuthorization clientId clientSecret).map fun authorization =>
    [(pyStr "Content-Type", pyStr "application/x-www-form-urlencoded"),
      (pyStr "Authorization", authorization)]

def tokenPayload (username password : PyStr) : List (PyStr × PyStr) :=
  [(pyStr "grant_type", pyStr "password"), (pyStr "username", username),
    (pyStr "password", password)]

def tokenRequest (settings : KeycloakSettings) (username : PyStr) : Except PyException PostRequest :=
  tokenHeaders.map fun headers =>
    { url := tokenUrl settings.url settings.realm, headers,
      data := tokenPayload username settings.password, verify := false }

def basicCredentials (header : PyStr) : Option (PyStr × PyStr) :=
  if startswith header (pyStr "Basic ") then do
    let bytes ← b64decode ((header.drop 6).map fun c => c.val.toUInt8)
    let text ← (utf8Decode bytes).toOption
    match splitOnce text (PyChar.ofChar ':') with
    | [user, password] => some (user, password)
    | _ => none
  else none

theorem utf8EncodeFrom_scalar (pos : Nat) {s : PyStr} (scalar : ScalarText s) :
    ∃ bytes, utf8EncodeFrom pos s = .ok bytes := by
  induction s generalizing pos with
  | nil => exact ⟨[], rfl⟩
  | cons c rest ih =>
    rw [ScalarText, List.forall_mem_cons] at scalar
    obtain ⟨bytes, encoded⟩ := ih (pos + 1) scalar.2
    exact ⟨_, utf8EncodeFrom_cons (by omega) encoded⟩

theorem basicAuthorization_eq {user password : PyStr} {bytes : List UInt8}
    (encoded : utf8Encode (user ++ pyStr ":" ++ password) = .ok bytes) :
    basicAuthorization user password = .ok (pyStr "Basic " ++ (b64encode bytes).map byteChar) := by
  simp only [basicAuthorization, encoded, utf8Decode_b64encode]
  rfl

@[simp] theorem byteChar_toUInt8 (b : UInt8) : (byteChar b).val.toUInt8 = b := toUInt8_eq rfl

/-- The endpoint reads the user-id and the password back from the `Authorization` header. -/
theorem basicCredentials_basicAuthorization {user password : PyStr}
    (noColon : PyChar.ofChar ':' ∉ user) (scalar : ScalarText (user ++ password)) :
    ∃ header, basicAuthorization user password = .ok header ∧
      basicCredentials header = some (user, password) := by
  have joined : user ++ pyStr ":" ++ password = user ++ PyChar.ofChar ':' :: password := by
    simp [pyStr]
  obtain ⟨bytes, encoded⟩ := utf8EncodeFrom_scalar 0 (s := user ++ pyStr ":" ++ password)
    (by simpa using scalar)
  refine ⟨_, basicAuthorization_eq encoded, ?_⟩
  have sent : ((b64encode bytes).map byteChar).map (fun c => c.val.toUInt8) = b64encode bytes := by
    rw [List.map_map]
    exact List.map_id'' byteChar_toUInt8 _
  rw [basicCredentials, if_pos (startswith_append _ _), List.drop_left' (show (pyStr "Basic ").length = 6 from rfl), sent,
    b64decode_b64encode]
  simp only [Option.bind_eq_bind, Option.some_bind, utf8Decode_utf8Encode encoded,
    Except.toOption, joined, splitOnce_append noColon]

theorem tokenHeaders_eq : tokenHeaders = .ok [(pyStr "Content-Type",
    pyStr "application/x-www-form-urlencoded"),
    (pyStr "Authorization", pyStr "Basic c2VjdXJlLW9iamVjdC1wcm94eS10ZXN0OnNlY3JldA==")] := by
  rfl

theorem raiseForStatus_eq_ok {response : Response} :
    raiseForStatus response = .ok () ↔ response.statusCode < 400 ∨ 600 ≤ response.statusCode := by
  unfold raiseForStatus
  split_ifs <;> simp <;> omega

theorem tokenRequest_ok (settings : KeycloakSettings) (username : PyStr) :
    ∃ request, tokenRequest settings username = .ok request :=
  ⟨_, by rw [tokenRequest, tokenHeaders_eq]; rfl⟩

theorem encodeParams_scalar {data : List (PyStr × PyStr)}
    (scalar : ∀ item ∈ data, ScalarText item.1 ∧ ScalarText item.2) :
    ∃ body, encodeParams data = .ok body := by
  suffices encoded : ∃ pairs, data.mapM encodePair = .ok pairs by
    obtain ⟨pairs, made⟩ := encoded
    exact ⟨_, by rw [encodeParams, made]; rfl⟩
  induction data with
  | nil => exact ⟨[], rfl⟩
  | cons item rest ih =>
    rw [List.forall_mem_cons] at scalar
    obtain ⟨key, keyMade⟩ := utf8EncodeFrom_scalar 0 scalar.1.1
    obtain ⟨value, valueMade⟩ := utf8EncodeFrom_scalar 0 scalar.1.2
    obtain ⟨pairs, made⟩ := ih scalar.2
    refine ⟨(key, value) :: pairs, ?_⟩
    rw [List.mapM_cons, encodePair, utf8Encode, utf8Encode, keyMade, valueMade, made]
    rfl

/-- The endpoint reads the grant type, user name and password back from the form body. -/
theorem tokenRequest_form (settings : KeycloakSettings) (username : PyStr)
    (scalar : ScalarText (username ++ settings.password)) :
    ∃ request body, tokenRequest settings username = .ok request ∧
      encodeParams request.data = .ok body ∧
      formFields body = some [(pyStr "grant_type", pyStr "password"), (pyStr "username", username),
        (pyStr "password", settings.password)] := by
  rw [scalarText_append] at scalar
  obtain ⟨body, encoded⟩ := @encodeParams_scalar (tokenPayload username settings.password)
    (by simp [tokenPayload, scalar.1, scalar.2])
  exact ⟨_, body, by rw [tokenRequest, tokenHeaders_eq]; rfl, encoded, formFields_encodeParams encoded⟩

theorem tokenRequest_form_defaults :
    ScalarText ((keycloakSettings fun _ => none).user ++ (keycloakSettings fun _ => none).password) ∧
    ∃ request body, tokenRequest (keycloakSettings fun _ => none)
        (keycloakSettings fun _ => none).user = .ok request ∧
      encodeParams request.data = .ok body ∧
      formFields body = some [(pyStr "grant_type", pyStr "password"),
        (pyStr "username", (keycloakSettings fun _ => none).user),
        (pyStr "password", (keycloakSettings fun _ => none).password)] :=
  have scalar : ScalarText ((keycloakSettings fun _ => none).user ++
      (keycloakSettings fun _ => none).password) := by simp [keycloakSettings, getenv]
  ⟨scalar, tokenRequest_form _ _ scalar⟩

section Token

variable (limits : JsonLimits) (settings : KeycloakSettings)
  (post : PostRequest → Except PyException Response)

def accessToken (response : Response) : Except PyException PyVal := do
  getItem (← responseJson limits response) "access_token"

def getJwt (username : PyStr) : Except PyException PyVal := do
  let response ← post (← tokenRequest settings username)
  raiseForStatus response
  accessToken limits response

def getAuthToken : List Event × Except PyException PyVal :=
  match tokenRequest settings settings.user >>= post with
  | .error e => ([], .error e)
  | .ok response =>
    if response.statusCode ≠ 200 then
      ([.print [.text "Auth Error: ", .value (.str response.text)]],
        raiseForStatus response >>= fun () => accessToken limits response)
    else ([], accessToken limits response)

def Granted (username : PyStr) (token : PyVal) : Prop :=
  ∃ request response, tokenRequest settings username = .ok request ∧ post request = .ok response ∧
    (response.statusCode < 400 ∨ 600 ≤ response.statusCode) ∧ accessToken limits response = .ok token

theorem getJwt_eq_ok {username : PyStr} {token : PyVal} :
    getJwt limits settings post username = .ok token ↔ Granted limits settings post username token := by
  simp only [getJwt, Granted, Except.bind_eq_ok, ← raiseForStatus_eq_ok]
  constructor
  · rintro ⟨request, made, response, answered, ⟨⟩, passed, issued⟩
    exact ⟨request, response, made, answered, passed, issued⟩
  · rintro ⟨request, response, made, answered, passed, issued⟩
    exact ⟨request, made, response, answered, (), passed, issued⟩

theorem getAuthToken_result :
    (getAuthToken limits settings post).2 = getJwt limits settings post settings.user := by
  obtain ⟨request, made⟩ := tokenRequest_ok settings settings.user
  simp only [getAuthToken, getJwt, made]
  rcases answer : post request with e | response
  · simp [bind, Except.bind, answer]
  · by_cases refused : response.statusCode = 200
    · have passed : raiseForStatus response = .ok () := raiseForStatus_eq_ok.mpr (by omega)
      simp [bind, Except.bind, answer, refused, passed]
    · simp [bind, Except.bind, answer, refused]

/-- `get_auth_token()` is `get_jwt(KC_USER)` plus an `Auth Error` line on a non-200 status. -/
theorem getAuthToken_eq_getJwt :
    (getAuthToken limits settings post).2 = getJwt limits settings post settings.user ∧
    ((getAuthToken limits settings post).1 ≠ [] ↔
      ∃ response, (tokenRequest settings settings.user >>= post) = .ok response ∧
        response.statusCode ≠ 200) := by
  refine ⟨getAuthToken_result limits settings post, ?_⟩
  unfold getAuthToken
  split
  · simp_all
  · split_ifs <;> simp_all

/-- A status from 201 to 399 makes `get_auth_token()` print `Auth Error` and return the token. -/
theorem getAuthToken_reports_error_yet_returns_token {response : Response} {token : PyVal}
    (answered : (tokenRequest settings settings.user >>= post) = .ok response)
    (notOk : response.statusCode ≠ 200) (passes : response.statusCode < 400)
    (issued : accessToken limits response = .ok token) :
    getAuthToken limits settings post =
      ([.print [.text "Auth Error: ", .value (.str response.text)]], .ok token) := by
  have passed : raiseForStatus response = .ok () := raiseForStatus_eq_ok.mpr (.inl passes)
  rw [getAuthToken, answered]
  simp only [if_pos notOk, passed, bind, Except.bind, issued]

end Token

structure AssumeRoleCall where
  endpointUrl : PyStr
  verify : Bool
  roleArn : PyStr
  roleSessionName : PyStr
  webIdentityToken : PyVal
  durationSeconds : Nat

structure S3ClientArgs where
  endpointUrl : PyStr
  awsAccessKeyId : PyVal
  awsSecretAccessKey : PyVal
  awsSessionToken : PyVal
  regionName : PyStr
  verify : Bool

def assumeRoleCall (token : PyVal) : AssumeRoleCall where
  endpointUrl := s4Endpoint
  verify := false
  roleArn := pyStr "arn:aws:iam::xxxx:xxx/xxx"
  roleSessionName := pyStr "WebIdentitySession"
  webIdentityToken := token
  durationSeconds := 3600

def s3ClientArgs (accessKeyId secretAccessKey sessionToken : PyVal) : S3ClientArgs where
  endpointUrl := s4Endpoint
  awsAccessKeyId := accessKeyId
  awsSecretAccessKey := secretAccessKey
  awsSessionToken := sessionToken
  regionName := s4Region
  verify := false

theorem getItem_eq_ok {value item : PyVal} {key : String} :
    getItem value key = .ok item ↔ ∃ entries, value = .dict entries ∧ entries.lookup (pyStr key) = some item := by
  constructor
  · intro found
    cases value with
    | dict entries =>
      refine ⟨entries, rfl, ?_⟩
      simp only [getItem] at found
      split at found
      · cases found
        assumption
      · cases found
    | _ => cases found
  · rintro ⟨entries, rfl, looked⟩
    simp only [getItem, looked]

section Exchange

variable (assumeRole : AssumeRoleCall → Except PyException PyVal)
  (s3Client : S3ClientArgs → S3Client)

def exchangeToken (token : PyVal) : Except PyException S3Client := do
  let response ← assumeRole (assumeRoleCall token)
  let creds ← getItem response "Credentials"
  let accessKeyId ← getItem creds "AccessKeyId"
  let secretAccessKey ← getItem creds "SecretAccessKey"
  let sessionToken ← creds.get "SessionToken"
  pure (s3Client (s3ClientArgs accessKeyId secretAccessKey sessionToken))

def Exchanged (token : PyVal) : Prop :=
  ∃ answer entries, assumeRole (assumeRoleCall token) = .ok answer ∧
    getItem answer "Credentials" = .ok (.dict entries) ∧
    (entries.lookup (pyStr "AccessKeyId")).isSome ∧ (entries.lookup (pyStr "SecretAccessKey")).isSome

theorem exchangeToken_eq_ok {token : PyVal} {client : S3Client} :
    exchangeToken assumeRole s3Client token = .ok client ↔
      ∃ answer entries key secret, assumeRole (assumeRoleCall token) = .ok answer ∧
        getItem answer "Credentials" = .ok (.dict entries) ∧
        entries.lookup (pyStr "AccessKeyId") = some key ∧
        entries.lookup (pyStr "SecretAccessKey") = some secret ∧
        client = s3Client (s3ClientArgs key secret (dictGet entries (pyStr "SessionToken") .none)) := by
  simp only [exchangeToken, Except.bind_eq_ok]
  constructor
  · rintro ⟨answer, asked, creds, found, key, keyFound, secret, secretFound, session, got, built⟩
    obtain ⟨entries, rfl, keyLooked⟩ := getItem_eq_ok.mp keyFound
    obtain ⟨_, ⟨⟩, secretLooked⟩ := getItem_eq_ok.mp secretFound
    cases got
    exact ⟨answer, entries, key, secret, asked, found, keyLooked, secretLooked,
      (Except.ok.inj built).symm⟩
  · rintro ⟨answer, entries, key, secret, asked, found, keyFound, secretFound, rfl⟩
    exact ⟨answer, asked, _, found, key, getItem_eq_ok.mpr ⟨entries, rfl, keyFound⟩, secret,
      getItem_eq_ok.mpr ⟨entries, rfl, secretFound⟩, _, rfl, rfl⟩

theorem exchanged_of_exchangeToken {token : PyVal} {client : S3Client}
    (exchanged : exchangeToken assumeRole s3Client token = .ok client) : Exchanged assumeRole token := by
  obtain ⟨answer, entries, key, secret, asked, found, keyFound, secretFound, -⟩ :=
    (exchangeToken_eq_ok assumeRole s3Client).mp exchanged
  exact ⟨answer, entries, asked, found, by simp [keyFound], by simp [secretFound]⟩

variable (limits : JsonLimits) (settings : KeycloakSettings)
  (post : PostRequest → Except PyException Response)

def getS4Client (username : PyStr) : Except PyException S3Client :=
  getJwt limits settings post username >>= exchangeToken assumeRole s3Client

def getS4S3Client : List Event × Except PyException S3Client :=
  let token := getAuthToken limits settings post
  (token.1, token.2 >>= exchangeToken assumeRole s3Client)

theorem getS4Client_authenticated {username : PyStr} {client : S3Client}
    (opened : getS4Client assumeRole s3Client limits settings post username = .ok client) :
    ∃ token, Granted limits settings post username token ∧ Exchanged assumeRole token := by
  obtain ⟨token, granted, exchanged⟩ := Except.bind_eq_ok.mp opened
  exact ⟨token, (getJwt_eq_ok limits settings post).mp granted,
    exchanged_of_exchangeToken assumeRole s3Client exchanged⟩

/-- `read_s4.py` reads the store only after Keycloak and STS granted it credentials. -/
theorem readManifestsFromDb_fetches_only_when_authenticated
    (dumps : PyVal → Except PyException PyStr) (db : DbOutcome) :
    getObjectCalls (readManifestsFromDb limits dumps settings.user
        (getS4Client assumeRole s3Client limits settings post settings.user) db).1 = [] ∨
      ∃ token, Granted limits settings post settings.user token ∧ Exchanged assumeRole token := by
  rcases opened : getS4Client assumeRole s3Client limits settings post settings.user with e | client
  · exact .inl rfl
  · exact .inr (getS4Client_authenticated assumeRole s3Client limits settings post opened)

/-- `seed_data.py` changes nothing unless Keycloak and STS granted it credentials. -/
theorem seedDataMain_changes_only_when_authenticated (floatRepr : PyFloat → PyStr)
    (createNanoTdf : List UInt8 → List PyStr → Except PyException (List UInt8))
    (draws : Nat → RecordDraw) (sdkInit : Option PyException) (store : ObjectStore)
    (session : DbSession) (shouldDelete : Bool) (table : List SeedRecord) :
    (seedDataMain limits floatRepr createNanoTdf settings.user draws sdkInit
        (getS4S3Client assumeRole s3Client limits settings post) store session shouldDelete table).2 =
        (store, table) ∨
      ∃ token, Granted limits settings post settings.user token ∧ Exchanged assumeRole token := by
  rcases opened : (getS4S3Client assumeRole s3Client limits settings post).2 with e | client
  · left
    generalize getS4S3Client assumeRole s3Client limits settings post = clientInit at opened ⊢
    obtain ⟨printed, result⟩ := clientInit
    cases opened
    cases sdkInit <;> rfl
  · obtain ⟨token, granted, exchanged⟩ := Except.bind_eq_ok.mp opened
    rw [getAuthToken_result limits settings post] at granted
    exact .inr ⟨token, (getJwt_eq_ok limits settings post).mp granted,
      exchanged_of_exchangeToken assumeRole s3Client exchanged⟩

end Exchange

end S4Manifests
