import Tkkube.Security.RateLimiter
import Tkkube.Security.InputValidator

/-!
# The security manager and its middleware

`PythonSecurityManager` of `python_security.py`, on the request path: `authenticate_request` with
`_validate_bearer_token` and `_validate_basic_auth`, `authorize_request`, `validate_request`, and
the ASGI `SecurityMiddleware.__call__` that runs them.  The manager's state is its rate limiter and
the lines its audit logger wrote.  Each request is handled at one clock reading, which serves both
`time.time()` and `datetime.utcnow()`; `bytes.decode()`, base64 decoding, `json.loads` and the
regular expression engine are oracles (`Codecs`).  The middleware converts the scope's header names
and values to strings before its `try`, so a header that is not UTF-8 escapes it as a
`UnicodeDecodeError`.  What constructing the manager can raise is in `Security.Setup`; the TLS
context, the crypto manager and the HTTP session are otherwise not modelled.

The middleware answers a `SecurityError` with its status and message, and otherwise calls
`self.app`, which `SecurityMiddleware` never sets.  Over every run of requests:

* `serve_rate_verdicts`: the requests refused with 429 are those the sliding window refuses among
  the requests that pass authentication, counted whatever validation then makes of them; a request
  that fails authentication is never counted;
* `securityMiddleware_never_forwards`: every answer is 400, 401 or 429, and a request that passes
  every check raises `AttributeError`, as every non-HTTP scope does; the only other exceptions are
  the `TypeError` of a client of `None` and the `UnicodeDecodeError` of a header;
* `authenticate_lowercase`, `securityMiddleware_lowercase_post`: with the lower-case header names
  ASGI servers send, `Authorization`, `X-API-Key` and `Content-Type` are never found, so only
  `x-api-key` or no credentials authenticate, and a `POST` or `PUT` with a body never passes
  validation;
* `authorize_authenticated`: a context `authenticate_request` returns is authorised for exactly
  the permissions it lists, and none of them is `admin`.
-/

namespace Tkkube
namespace Security

/-! ## Configuration, contexts and errors -/

/-- `SecurityConfig`, each field of the type it declares, with its default. -/
structure SecurityConfig where
  enabled : Bool := true
  strictMode : Bool := true
  apiKey : Option String := none
  secretKey : Option String := none
  tlsEnabled : Bool := true
  tlsVerify : Bool := true
  tlsCertPath : Option String := none
  tlsKeyPath : Option String := none
  tlsCaPath : Option String := none
  rateLimitRequests : Int := 100
  rateLimitWindow : Int := 60
  auditEnabled : Bool := true
  auditLogPath : String := "/var/log/backup-gitops/python-security.log"
  maxRequestSize : Int := 1024 * 1024
  requestTimeout : Int := 30
  sessionTimeout : Int := 1800

/-- `AuthContext`; `expires_at` is a clock reading. -/
structure AuthContext where
  authenticated : Bool := false
  clientId : String := ""
  authMethod : String := ""
  permissions : List String := []
  sessionId : String := ""
  expiresAt : Option ℚ := none

/-- `SecurityError(message, error_type, status_code)`. -/
structure SecurityError where
  message : String
  errorType : String
  statusCode : Nat

/-- `AuthenticationError(message)`. -/
def authenticationError (message : String) : SecurityError :=
  ⟨message, "authentication_error", 401⟩

/-- `AuthorizationError(message)`. -/
def authorizationError (message : String) : SecurityError :=
  ⟨message, "authorization_error", 403⟩

/-- `ValidationError(message)`. -/
def validationError (message : String) : SecurityError :=
  ⟨message, "validation_error", 400⟩

/-- `RateLimitError(message)`. -/
def rateLimitError (message : String) : SecurityError :=
  ⟨message, "rate_limit_error", 429⟩

/-- `SecurityEvent`, as `AuditLogger.log_event` writes it. -/
structure SecurityEvent where
  eventType : String
  timestamp : ℚ
  clientId : String
  sourceIp : String
  endpoint : String
  method : String
  status : String
  message : String

/-- How `json.loads(body.decode('utf-8'))` fails: with `JSONDecodeError`, or with another exception
(a `UnicodeDecodeError`), by its text. -/
inductive LoadError where
  | jsonDecodeError
  | other (error : String)

/-- What the manager does not compute itself: `b.decode()` of bytes, with the message of the
`UnicodeDecodeError` it raises, `base64.b64decode(s).decode('utf-8')`,
`json.loads(body.decode('utf-8'))` and `re.search(pattern, value) is not None`. -/
structure Codecs where
  decode : List UInt8 → Except String String
  b64decode : String → Except String String
  loads : List UInt8 → Except LoadError Value
  search : String → String → Bool

/-! ## Strings and headers -/

/-- `s.startswith(prefix)`. -/
def startswith (s pre : String) : Bool :=
  pre.data.isPrefixOf s.data

/-- `s[n:]`. -/
def sliceFrom (s : String) (n : Nat) : String :=
  ⟨s.data.drop n⟩

/-- `s[:n]`. -/
def sliceTo (s : String) (n : Nat) : String :=
  ⟨s.data.take n⟩

/-- `s.split(':', 1)`. -/
def splitColonOnce (s : String) : List String :=
  match s.data.span (· ≠ ':') with
  | (before, []) => [⟨before⟩]
  | (before, _ :: after) => [⟨before⟩, ⟨after⟩]

/-- `d[name] = value`: an existing entry keeps its place. -/
def setHeader {α β : Type} [DecidableEq α] (name : α) (value : β) : List (α × β) → List (α × β)
  | [] => [(name, value)]
  | (k, v) :: rest => if k = name then (name, value) :: rest else (k, v) :: setHeader name value rest

/-- `dict(pairs)`. -/
def headerDict {α β : Type} [DecidableEq α] (pairs : List (α × β)) : List (α × β) :=
  pairs.foldl (fun d kv => setHeader kv.1 kv.2 d) []

/-- A header name or value as the server put it into the scope: bytes, as ASGI has them, or a
string, which the middleware keeps as it is. -/
inductive HeaderText where
  | bytes (b : List UInt8)
  | str (s : String)
  deriving DecidableEq

/-- `x.decode()` when `x` is bytes, and `x` otherwise. -/
def HeaderText.toStr (decode : List UInt8 → Except String String) : HeaderText → Except String String
  | .bytes b => decode b
  | .str s => .ok s

/-- The loop of `SecurityMiddleware.__call__` that converts the headers to strings into
`str_headers`, which holds `acc`: each name, then its value, is decoded and written; the first
`UnicodeDecodeError` escapes. -/
def convertHeaders (decode : List UInt8 → Except String String) :
    List (HeaderText × HeaderText) → List (String × String) → Except String (List (String × String))
  | [], acc => .ok acc
  | (k, v) :: rest, acc => do
      let key ← k.toStr decode
      let value ← v.toStr decode
      convertHeaders decode rest (setHeader key value acc)

/-- `a or b` on two optional strings: `a` unless it is `None` or empty. -/
def pyOr (a b : Option String) : Option String :=
  match a with
  | some s => if s = "" then b else a
  | none => b

/-! ## `authenticate_request` -/

/-- The permissions of an authenticated caller. -/
def grantedPermissions : List String :=
  ["webhook_access", "status_read"]

/-- `_validate_bearer_token(token)`. -/
def validateBearerToken (config : SecurityConfig) (token : String) (now : ℚ) :
    Except SecurityError AuthContext :=
  if token.length < 32 then .error (authenticationError "Invalid token format")
  else .ok { authenticated := true, clientId := "token-" ++ sliceTo token 8,
              authMethod := "bearer_token", permissions := grantedPermissions, sessionId := token,
              expiresAt := some (now + config.sessionTimeout) }

/-- The `try` of `_validate_basic_auth`, with the text of what it raises. -/
def basicAuthAttempt (config : SecurityConfig) (b64decode : String → Except String String)
    (credentials : String) (now : ℚ) : Except String AuthContext := do
  let decoded ← b64decode credentials
  match splitColonOnce decoded with
  | [username, password] =>
      if username ≠ "" ∧ password ≠ "" ∧ password.length ≥ 8 then
        pure { authenticated := true, clientId := "user-" ++ username, authMethod := "basic_auth",
               permissions := grantedPermissions, expiresAt := some (now + config.sessionTimeout) }
      else throw "Invalid credentials"
  | parts =>
      throw ("not enough values to unpack (expected 2, got " ++ toString parts.length ++ ")")

/-- `_validate_basic_auth(credentials)`: whatever the `try` raises becomes one error. -/
def validateBasicAuth (config : SecurityConfig) (b64decode : String → Except String String)
    (credentials : String) (now : ℚ) : Except SecurityError AuthContext :=
  match basicAuthAttempt config b64decode credentials now with
  | .ok context => .ok context
  | .error _ => .error (authenticationError "Invalid Basic auth format")

/-- The API key a request offers: `headers.get("X-API-Key") or headers.get("x-api-key")`, when it is
not empty. -/
def offeredApiKey (headers : List (String × String)) : Option String :=
  match pyOr (headers.lookup "X-API-Key") (headers.lookup "x-api-key") with
  | some key => if key = "" then none else some key
  | none => none

/-- The `try` of `authenticate_request`, up to the audit line. -/
def authenticateHeaders (config : SecurityConfig) (b64decode : String → Except String String)
    (headers : List (String × String)) (sourceIp : String) (now : ℚ) :
    Except SecurityError AuthContext :=
  match offeredApiKey headers with
  | some apiKey =>
      if (config.apiKey.any (· ≠ "")) ∧ some apiKey = config.apiKey then
        .ok { authenticated := true, clientId := "api-key-" ++ sliceTo apiKey 8,
              authMethod := "api_key", permissions := grantedPermissions,
              expiresAt := some (now + config.sessionTimeout) }
      else .error (authenticationError "Invalid API key")
  | none =>
      match headers.lookup "Authorization" with
      | some authHeader =>
          if startswith authHeader "Bearer " then
            validateBearerToken config (sliceFrom authHeader 7) now
          else if startswith authHeader "Basic " then
            validateBasicAuth config b64decode (sliceFrom authHeader 6) now
          else .error (authenticationError "Unsupported authentication method")
      | none =>
          if config.strictMode then .error (authenticationError "Authentication required")
          else .ok { authenticated := false, clientId := "anonymous-" ++ sourceIp,
                     authMethod := "none", permissions := ["health_check"] }

/-- The audit line `authenticate_request` writes for its outcome. -/
def authAuditEvent (sourceIp : String) (now : ℚ) : Except SecurityError AuthContext → SecurityEvent
  | .ok context => ⟨"authentication", now, context.clientId, sourceIp, "auth", "AUTH", "success",
      "Authentication successful using " ++ context.authMethod⟩
  | .error e => ⟨"authentication_failed", now, "unknown", sourceIp, "auth", "AUTH", "failed",
      e.message⟩

/-! ## The manager -/

/-- `PythonSecurityManager`: its configuration, its rate limiter, and the lines its audit logger
wrote, oldest first. -/
structure PythonSecurityManager where
  config : SecurityConfig
  rateLimiter : RateLimiter
  auditLog : List SecurityEvent

namespace PythonSecurityManager

/-- `PythonSecurityManager(config)` constructed at clock reading `now`. -/
def init (config : SecurityConfig) (now : ℚ) : PythonSecurityManager :=
  ⟨config, RateLimiter.init config.rateLimitRequests config.rateLimitWindow now, []⟩

/-- `await self.audit_logger.log_event(event)`, when there is an audit logger. -/
def logEvent (m : PythonSecurityManager) (event : SecurityEvent) : PythonSecurityManager :=
  if m.config.auditEnabled then { m with auditLog := m.auditLog ++ [event] } else m

/-- `authenticate_request(headers, source_ip)`. -/
def authenticateRequest (m : PythonSecurityManager) (codecs : Codecs)
    (headers : List (String × String)) (sourceIp : String) (now : ℚ) :
    Except SecurityError AuthContext × PythonSecurityManager :=
  let result := authenticateHeaders m.config codecs.b64decode headers sourceIp now
  (result, m.logEvent (authAuditEvent sourceIp now result))

/-- `authorize_request(auth_context, required_permission)`. -/
def authorizeRequest (m : PythonSecurityManager) (context : AuthContext)
    (requiredPermission : String) : Except SecurityError Bool :=
  if !context.authenticated && m.config.strictMode then
    .error (authorizationError "Authentication required")
  else if requiredPermission ∈ context.permissions ∨ "admin" ∈ context.permissions then .ok true
  else .error (authorizationError ("Permission '" ++ requiredPermission ++ "' required"))

end PythonSecurityManager

/-! ## `validate_request` -/

/-- The dictionary `validate_request` returns. -/
structure ValidatedRequest where
  method : String
  endpoint : String
  headers : List (String × String)
  body : Option Value
  sourceIp : String
  validatedAt : ℚ

/-- `allowed_methods`. -/
def allowedMethods : List String :=
  ["GET", "POST", "PUT", "DELETE", "HEAD", "OPTIONS"]

/-- The parse of a non-empty body and `validate_json` of what it gives. -/
def parseBody (codecs : Codecs) (body : List UInt8) : Except SecurityError Value :=
  match codecs.loads body with
  | .error .jsonDecodeError => .error (validationError "Invalid JSON format")
  | .error (.other e) => .error (validationError ("JSON validation failed: " ++ e))
  | .ok value =>
      match validateJson (validateString codecs.search) value with
      | .ok () => .ok value
      | .error e => .error (validationError ("JSON validation failed: " ++ e))

/-- The checks of `validate_request` after the rate limiter answered `allowed`, in their order. -/
def checkRequest (config : SecurityConfig) (codecs : Codecs) (allowed : Bool)
    (method endpoint : String) (headers : List (String × String)) (body : List UInt8)
    (sourceIp : String) (now : ℚ) : Except SecurityError ValidatedRequest :=
  if !allowed then .error (rateLimitError "Rate limit exceeded")
  else if body ≠ [] ∧ (body.length : Int) > config.maxRequestSize then
    .error (validationError "Request body too large")
  else if method ∉ allowedMethods then .error (validationError "Invalid HTTP method")
  else if method ∈ ["POST", "PUT"] ∧ body ≠ [] ∧
      !startswith ((headers.lookup "Content-Type").getD "") "application/json" then
    .error (validationError "Invalid content type")
  else if body ≠ [] then
    (parseBody codecs body).map fun parsed => ⟨method, endpoint, headers, some parsed, sourceIp, now⟩
  else .ok ⟨method, endpoint, headers, none, sourceIp, now⟩

/-- `validate_request(method, endpoint, headers, body, source_ip)`; a body of `None` is `b""`. -/
def PythonSecurityManager.validateRequest (m : PythonSecurityManager) (codecs : Codecs)
    (method endpoint : String) (headers : List (String × String)) (body : List UInt8)
    (sourceIp : String) (now : ℚ) : Except SecurityError ValidatedRequest × PythonSecurityManager :=
  let r := m.rateLimiter.allow sourceIp now
  (checkRequest m.config codecs r.1 method endpoint headers body sourceIp now,
    { m with rateLimiter := r.2 })

/-! ## The middleware -/

/-- An ASGI `scope`, as far as the middleware reads it.  `client` is `none` when the key is absent
and `some none` when the server put `None` there. -/
structure Scope where
  type : String
  method : String
  path : String
  headers : List (HeaderText × HeaderText)
  client : Option (Option String)

/-- `str_headers`: `dict(scope["headers"])` with its names and values converted to strings. -/
def Scope.strHeaders (scope : Scope) (decode : List UInt8 → Except String String) :
    Except String (List (String × String)) :=
  convertHeaders decode (headerDict scope.headers) []

/-- A message of `receive()`; the `http.disconnect` that ends the channel has neither key. -/
structure Message where
  body : List UInt8
  moreBody : Bool

/-- The loop that reads the body: the messages up to the first without `more_body`. -/
def readBody : List Message → List UInt8
  | [] => []
  | message :: messages =>
      if message.moreBody then message.body ++ readBody messages else message.body

/-- An exception that escapes the middleware: its class and its message. -/
structure Uncaught where
  type : String
  message : String
  deriving DecidableEq

/-- What `None[0]` raises. -/
def notSubscriptable : Uncaught :=
  ⟨"TypeError", "'NoneType' object is not subscriptable"⟩

/-- `scope.get("client", ["unknown", None])[0]`. -/
def clientIp : Option (Option String) → Except Uncaught String
  | none => .ok "unknown"
  | some none => .error notSubscriptable
  | some (some host) => .ok host

/-- The `UnicodeDecodeError` of a header name or value that is not UTF-8. -/
def undecodable (message : String) : Uncaught :=
  ⟨"UnicodeDecodeError", message⟩

/-- What `self.app` raises: `SecurityMiddleware.__init__` never sets it. -/
def appMissing : Uncaught :=
  ⟨"AttributeError", "'SecurityMiddleware' object has no attribute 'app'"⟩

/-- The answer sent for a `SecurityError`: the status of `http.response.start`, and the `error`,
`error_type` and clock reading of the `timestamp` of the body. -/
structure Answer where
  status : Nat
  error : String
  errorType : String
  timestamp : ℚ

/-- The answer for `e`. -/
def SecurityError.answer (e : SecurityError) (now : ℚ) : Answer :=
  ⟨e.statusCode, e.message, e.errorType, now⟩

/-- `SecurityMiddleware(manager)(scope, receive, send)`: the answer sent or the exception raised,
and the manager after. -/
def securityMiddleware (m : PythonSecurityManager) (codecs : Codecs) (scope : Scope)
    (messages : List Message) (now : ℚ) : Except Uncaught Answer × PythonSecurityManager :=
  if scope.type ≠ "http" then (.error appMissing, m)
  else
    match clientIp scope.client with
    | .error e => (.error e, m)
    | .ok ip =>
        match scope.strHeaders codecs.decode with
        | .error message => (.error (undecodable message), m)
        | .ok headers =>
            let auth := m.authenticateRequest codecs headers ip now
            match auth.1 with
            | .error e => (.ok (e.answer now), auth.2)
            | .ok _ =>
                let checked := auth.2.validateRequest codecs scope.method scope.path headers
                  (readBody messages) ip now
                match checked.1 with
                | .error e => (.ok (e.answer now), checked.2)
                | .ok _ => (.error appMissing, checked.2)

/-- A request the middleware is called for, at a clock reading. -/
structure HttpRequest where
  scope : Scope
  messages : List Message
  now : ℚ

/-- The middleware called for one request after another. -/
def serve (m : PythonSecurityManager) (codecs : Codecs) :
    List HttpRequest → List (Except Uncaught Answer) × PythonSecurityManager
  | [] => ([], m)
  | r :: rs =>
      let a := securityMiddleware m codecs r.scope r.messages r.now
      let b := serve a.2 codecs rs
      (a.1 :: b.1, b.2)

/-! ## What authentication and validation can answer -/

section Answers

variable {config : SecurityConfig} {codecs : Codecs} {b64decode : String → Except String String}
  {headers : List (String × String)} {ip : String} {now : ℚ} {e : SecurityError}
  {context : AuthContext}

theorem validateBearerToken_error {token : String} (h : validateBearerToken config token now = .error e) :
    e = authenticationError "Invalid token format" := by
  unfold validateBearerToken at h; split at h <;> cases h; rfl

theorem validateBasicAuth_error {credentials : String}
    (h : validateBasicAuth config b64decode credentials now = .error e) :
    e = authenticationError "Invalid Basic auth format" := by
  unfold validateBasicAuth at h; split at h <;> cases h; rfl

/-- Every failure of authentication is an `AuthenticationError`. -/
theorem authenticateHeaders_error (h : authenticateHeaders config b64decode headers ip now = .error e) :
    ∃ message, e = authenticationError message := by
  unfold authenticateHeaders at h
  repeat' split at h
  all_goals first
    | exact ⟨_, validateBearerToken_error h⟩
    | exact ⟨_, validateBasicAuth_error h⟩
    | (cases h <;> exact ⟨_, rfl⟩)

theorem validateBearerToken_ok {token : String}
    (h : validateBearerToken config token now = .ok context) :
    context.authenticated = true ∧ context.permissions = grantedPermissions := by
  unfold validateBearerToken at h; split at h <;> cases h; exact ⟨rfl, rfl⟩

theorem validateBasicAuth_ok {credentials : String}
    (h : validateBasicAuth config b64decode credentials now = .ok context) :
    context.authenticated = true ∧ context.permissions = grantedPermissions := by
  unfold validateBasicAuth at h
  split at h
  · rename_i hb
    cases h
    simp only [basicAuthAttempt, bind, Except.bind] at hb
    repeat' split at hb
    all_goals cases hb
    exact ⟨rfl, rfl⟩
  · cases h

/-- A context authentication returns: an authenticated one with the two permissions, or, out of
strict mode, an anonymous one that may only check health. -/
theorem authenticateHeaders_ok (h : authenticateHeaders config b64decode headers ip now = .ok context) :
    (context.authenticated = true ∧ context.permissions = grantedPermissions) ∨
      (context.authenticated = false ∧ config.strictMode = false ∧
        context.permissions = ["health_check"]) := by
  unfold authenticateHeaders at h
  repeat' split at h
  all_goals first
    | exact .inl (validateBearerToken_ok h)
    | exact .inl (validateBasicAuth_ok h)
    | (cases h <;> first | exact .inl ⟨rfl, rfl⟩ | exact .inr ⟨rfl, by simp_all, rfl⟩)

theorem parseBody_error {body : List UInt8} (h : parseBody codecs body = .error e) :
    ∃ message, e = validationError message := by
  unfold parseBody at h
  repeat' split at h
  all_goals cases h
  all_goals exact ⟨_, rfl⟩

/-- Validation refuses with 429 exactly when the limiter did, and with 400 otherwise. -/
theorem checkRequest_error {allowed : Bool} {method endpoint : String} {body : List UInt8}
    (h : checkRequest config codecs allowed method endpoint headers body ip now = .error e) :
    (allowed = false ∧ e = rateLimitError "Rate limit exceeded") ∨
      (allowed = true ∧ ∃ message, e = validationError message) := by
  unfold checkRequest at h
  split at h
  · cases h; exact .inl ⟨by simp_all, rfl⟩
  · refine .inr ⟨by simp_all, ?_⟩
    repeat' split at h
    all_goals first
      | (cases h <;> exact ⟨_, rfl⟩)
      | (cases hp : parseBody codecs body with
          | error e' => rw [hp] at h; cases h; exact parseBody_error hp
          | ok v => rw [hp] at h; cases h)

theorem allowed_of_checkRequest_ok {allowed : Bool} {method endpoint : String} {body : List UInt8}
    {v : ValidatedRequest} (h : checkRequest config codecs allowed method endpoint headers body ip now = .ok v) :
    allowed = true := by
  unfold checkRequest at h
  split at h
  · cases h
  · simp_all

end Answers

/-! ## One call of the middleware -/

namespace PythonSecurityManager

variable (m : PythonSecurityManager) (codecs : Codecs) (headers : List (String × String))
  (ip : String) (now : ℚ)

@[simp] theorem logEvent_config (event : SecurityEvent) : (m.logEvent event).config = m.config := by
  unfold logEvent; split <;> rfl

@[simp] theorem logEvent_rateLimiter (event : SecurityEvent) :
    (m.logEvent event).rateLimiter = m.rateLimiter := by
  unfold logEvent; split <;> rfl

@[simp] theorem authenticateRequest_fst :
    (m.authenticateRequest codecs headers ip now).1 =
      authenticateHeaders m.config codecs.b64decode headers ip now := rfl

@[simp] theorem authenticateRequest_config :
    (m.authenticateRequest codecs headers ip now).2.config = m.config :=
  logEvent_config _ _

@[simp] theorem authenticateRequest_rateLimiter :
    (m.authenticateRequest codecs headers ip now).2.rateLimiter = m.rateLimiter :=
  logEvent_rateLimiter _ _

end PythonSecurityManager

/-- The address of a request that reaches `validate_request`: an HTTP scope with a client address
and headers that convert to strings and authenticate. -/
def authenticatedIp (config : SecurityConfig) (codecs : Codecs) (scope : Scope) (now : ℚ) :
    Option String :=
  if scope.type ≠ "http" then none
  else
    match clientIp scope.client, scope.strHeaders codecs.decode with
    | .ok ip, .ok headers =>
        if (authenticateHeaders config codecs.b64decode headers ip now).isOk then some ip else none
    | _, _ => none

theorem clientIp_error {client : Option (Option String)} {e : Uncaught} (h : clientIp client = .error e) :
    e = notSubscriptable := by
  unfold clientIp at h; split at h <;> cases h; rfl

/-- **What one call of the middleware does.**  Either the request does not reach `validate_request`
and the limiter is left as it was, the call raising (a non-HTTP scope, a client of `None`, a header
that is not UTF-8) or answering authentication's error; or it does, the limiter takes the call, and
the call answers validation's error or raises `AttributeError` on `self.app`. -/
theorem securityMiddleware_cases (m : PythonSecurityManager) (codecs : Codecs) (scope : Scope)
    (messages : List Message) (now : ℚ) :
    (securityMiddleware m codecs scope messages now).2.config = m.config ∧
    ((authenticatedIp m.config codecs scope now = none ∧
        (securityMiddleware m codecs scope messages now).2.rateLimiter = m.rateLimiter ∧
        ((scope.type ≠ "http" ∧ (securityMiddleware m codecs scope messages now).1 = .error appMissing) ∨
          (scope.type = "http" ∧
            (securityMiddleware m codecs scope messages now).1 = .error notSubscriptable) ∨
          (scope.type = "http" ∧ ∃ message, scope.strHeaders codecs.decode = .error message ∧
            (securityMiddleware m codecs scope messages now).1 = .error (undecodable message)) ∨
          scope.type = "http" ∧ ∃ message, (securityMiddleware m codecs scope messages now).1 =
            .ok ((authenticationError message).answer now))) ∨
      ∃ ip headers, authenticatedIp m.config codecs scope now = some ip ∧
        scope.strHeaders codecs.decode = .ok headers ∧
        (securityMiddleware m codecs scope messages now).2.rateLimiter =
          (m.rateLimiter.allow ip now).2 ∧
        let check := checkRequest m.config codecs (m.rateLimiter.allow ip now).1 scope.method
          scope.path headers (readBody messages) ip now
        ((∃ v, check = .ok v) ∧ (securityMiddleware m codecs scope messages now).1 = .error appMissing) ∨
          ∃ e, check = .error e ∧ (securityMiddleware m codecs scope messages now).1 = .ok (e.answer now)) := by
  unfold securityMiddleware authenticatedIp
  by_cases ht : scope.type = "http"
  · rw [if_neg (not_not.mpr ht), if_neg (not_not.mpr ht)]
    cases hc : clientIp scope.client with
    | error e => exact ⟨rfl, .inl ⟨rfl, rfl, .inr (.inl ⟨ht, by rw [clientIp_error hc]⟩)⟩⟩
    | ok ip =>
      cases hh : scope.strHeaders codecs.decode with
      | error message => exact ⟨rfl, .inl ⟨rfl, rfl, .inr (.inr (.inl ⟨ht, message, rfl, rfl⟩))⟩⟩
      | ok headers =>
        simp only [PythonSecurityManager.authenticateRequest_fst]
        cases ha : authenticateHeaders m.config codecs.b64decode headers ip now with
        | error e =>
          obtain ⟨message, rfl⟩ := authenticateHeaders_error ha
          exact ⟨by simp, .inl ⟨rfl, by simp, .inr (.inr (.inr ⟨ht, message, rfl⟩))⟩⟩
        | ok context =>
          simp only [PythonSecurityManager.validateRequest,
            PythonSecurityManager.authenticateRequest_rateLimiter,
            PythonSecurityManager.authenticateRequest_config]
          cases hv : checkRequest m.config codecs (m.rateLimiter.allow ip now).1 scope.method scope.path
            headers (readBody messages) ip now with
          | error e => exact ⟨rfl, .inr ⟨ip, headers, rfl, rfl, rfl, .inr ⟨e, hv, rfl⟩⟩⟩
          | ok v => exact ⟨rfl, .inr ⟨ip, headers, rfl, rfl, rfl, .inl ⟨⟨v, hv⟩, rfl⟩⟩⟩
  · rw [if_pos ht, if_pos ht]
    exact ⟨rfl, .inl ⟨rfl, rfl, .inl ⟨ht, rfl⟩⟩⟩

/-! ## Converting the headers -/

section Headers

variable {α β : Type} [DecidableEq α]

/-- Every entry of `d` after `d[name] = value` is the one written or one it had. -/
theorem mem_setHeader {name : α} {value : β} {kv : α × β} :
    ∀ {d : List (α × β)}, kv ∈ setHeader name value d → kv = (name, value) ∨ kv ∈ d
  | [], h => .inl (List.mem_singleton.mp h)
  | (k, v) :: rest, h => by
    unfold setHeader at h
    split at h
    · rcases List.mem_cons.mp h with h | h
      · exact .inl h
      · exact .inr (List.mem_cons_of_mem _ h)
    · rcases List.mem_cons.mp h with h | h
      · exact .inr (h ▸ List.mem_cons_self _ _)
      · exact (mem_setHeader h).imp_right (List.mem_cons_of_mem _)

theorem mem_foldl_setHeader {kv : α × β} :
    ∀ {pairs d : List (α × β)}, kv ∈ pairs.foldl (fun d kv => setHeader kv.1 kv.2 d) d →
      kv ∈ d ∨ kv ∈ pairs
  | [], _, h => .inl h
  | p :: rest, d, h => by
    rcases @mem_foldl_setHeader _ rest (setHeader p.1 p.2 d) h with h | h
    · rcases mem_setHeader h with rfl | h
      · exact .inr (List.mem_cons_self _ _)
      · exact .inl h
    · exact .inr (List.mem_cons_of_mem _ h)

/-- `dict(pairs)` holds only pairs of `pairs`. -/
theorem mem_headerDict {kv : α × β} {pairs : List (α × β)} (h : kv ∈ headerDict pairs) :
    kv ∈ pairs :=
  (mem_foldl_setHeader h).resolve_left (List.not_mem_nil _)

theorem mem_names_headerDict {k : α} {pairs : List (α × β)}
    (h : k ∈ (headerDict pairs).map Prod.fst) : k ∈ pairs.map Prod.fst := by
  obtain ⟨kv, hkv, rfl⟩ := List.mem_map.mp h
  exact List.mem_map_of_mem _ (mem_headerDict hkv)

end Headers

/-- The text a header conversion raises is what decoding one of the names or values raised. -/
theorem convertHeaders_error {decode : List UInt8 → Except String String} {message : String} :
    ∀ {d : List (HeaderText × HeaderText)} {acc : List (String × String)},
      convertHeaders decode d acc = .error message →
        ∃ kv ∈ d, kv.1.toStr decode = .error message ∨ kv.2.toStr decode = .error message
  | [], _, h => by cases h
  | (k, v) :: rest, acc, h => by
    simp only [convertHeaders, bind, Except.bind] at h
    split at h
    · cases h; exact ⟨_, List.mem_cons_self _ _, .inl ‹_›⟩
    · split at h
      · cases h; exact ⟨_, List.mem_cons_self _ _, .inr ‹_›⟩
      · obtain ⟨kv, hkv, hkv'⟩ := convertHeaders_error h
        exact ⟨kv, List.mem_cons_of_mem _ hkv, hkv'⟩

/-- A conversion that raises raises what decoding a name or a value of the scope raised. -/
theorem strHeaders_error {scope : Scope} {decode : List UInt8 → Except String String} {message : String}
    (h : scope.strHeaders decode = .error message) :
    ∃ kv ∈ scope.headers, kv.1.toStr decode = .error message ∨ kv.2.toStr decode = .error message :=
  let ⟨kv, hkv, hdec⟩ := convertHeaders_error h
  ⟨kv, mem_headerDict hkv, hdec⟩

/-- Whether an outcome is the answer 429. -/
def refused : Except Uncaught Answer → Bool
  | .ok a => a.status == 429
  | .error _ => false

/-- The requests of a run that reach `validate_request`. -/
def authenticatedRequests (config : SecurityConfig) (codecs : Codecs) (rs : List HttpRequest) :
    List HttpRequest :=
  rs.filter fun r => (authenticatedIp config codecs r.scope r.now).isSome

/-- The calls the limiter sees along a run: the address and time of each request that reaches
`validate_request`. -/
def rateCalls (config : SecurityConfig) (codecs : Codecs) (rs : List HttpRequest) :
    List (String × ℚ) :=
  (authenticatedRequests config codecs rs).map fun r =>
    ((authenticatedIp config codecs r.scope r.now).getD "", r.now)

/-- For each request of a run that reaches `validate_request`, whether it got past the limiter. -/
def rateVerdicts (config : SecurityConfig) (codecs : Codecs) (rs : List HttpRequest)
    (outcomes : List (Except Uncaught Answer)) : List Bool :=
  ((rs.zip outcomes).filter fun ro => (authenticatedIp config codecs ro.1.scope ro.1.now).isSome).map
    fun ro => !refused ro.2

/-- A request that reaches `validate_request` is refused with 429 exactly when the limiter says no. -/
theorem refused_securityMiddleware {m : PythonSecurityManager} {codecs : Codecs} {scope : Scope}
    {messages : List Message} {now : ℚ} {ip : String}
    (hip : authenticatedIp m.config codecs scope now = some ip) :
    refused (securityMiddleware m codecs scope messages now).1 = !(m.rateLimiter.allow ip now).1 := by
  obtain ⟨-, ⟨hip', -⟩ | ⟨ip', _, hip', -, -, hout⟩⟩ := securityMiddleware_cases m codecs scope messages now
  · rw [hip] at hip'; cases hip'
  · rw [hip] at hip'; cases hip'
    rcases hout with ⟨⟨v, hv⟩, hr⟩ | ⟨e, he, hr⟩ <;> rw [hr]
    · rw [allowed_of_checkRequest_ok hv]; rfl
    · rcases checkRequest_error he with ⟨hno, rfl⟩ | ⟨hyes, message, rfl⟩
      · rw [hno]; rfl
      · rw [hyes]; rfl

theorem serve_config (m : PythonSecurityManager) (codecs : Codecs) (rs : List HttpRequest) :
    (serve m codecs rs).2.config = m.config := by
  induction rs generalizing m with
  | nil => rfl
  | cons r rs ih => exact (ih _).trans (securityMiddleware_cases m codecs r.scope r.messages r.now).1

/-- Along a run the limiter answers the requests that reach `validate_request`, and only them. -/
theorem serve_rateVerdicts (m : PythonSecurityManager) (codecs : Codecs) (rs : List HttpRequest) :
    rateVerdicts m.config codecs rs (serve m codecs rs).1 =
      m.rateLimiter.answers (rateCalls m.config codecs rs) := by
  induction rs generalizing m with
  | nil => rfl
  | cons r rs ih =>
    obtain ⟨hcfg, ⟨hip, hrl, -⟩ | ⟨ip, _, hip, -, hrl, -⟩⟩ := securityMiddleware_cases m codecs r.scope
      r.messages r.now
    all_goals
      have ih' := ih (securityMiddleware m codecs r.scope r.messages r.now).2
      rw [hcfg, hrl] at ih'
    · simpa [rateVerdicts, rateCalls, authenticatedRequests, serve, hip] using ih'
    · simp only [rateVerdicts, rateCalls, authenticatedRequests, serve, List.zip_cons_cons,
        List.filter_cons, hip, Option.isSome_some, if_true, List.map_cons, Option.getD_some,
        RateLimiter.answers, refused_securityMiddleware hip, Bool.not_not] at ih' ⊢
      rw [ih']

/-- A configuration with an API key, in strict mode. -/
def keyConfig : SecurityConfig :=
  { apiKey := some "secret-key-123" }

/-- The bytes of an ASCII text. -/
def asciiBytes (s : String) : List UInt8 :=
  s.data.map fun c => c.toNat.toUInt8

/-- Header bytes read as ASCII; every base64 text and every body rejected, and no pattern found. -/
def plainCodecs : Codecs :=
  ⟨fun b => if b.all (· < 128) then .ok ⟨b.map fun x => Char.ofNat x.toNat⟩
      else .error "'utf-8' codec can't decode bytes",
    fun _ => .error "Incorrect padding", fun _ => .error .jsonDecodeError, fun _ _ => false⟩

/-- Lower-case headers with the configured key and a JSON content type. -/
def keyHeaders : List (String × String) :=
  [("x-api-key", "secret-key-123"), ("content-type", "application/json")]

/-- A `POST` of the body `{}` from `10.0.0.1` with those headers, as bytes. -/
def keyPost : Scope :=
  ⟨"http", "POST", "/webhook", keyHeaders.map fun kv => (.bytes (asciiBytes kv.1), .bytes (asciiBytes kv.2)),
    some (some "10.0.0.1")⟩

/-- The body `{}` in one message. -/
def braces : List Message :=
  [⟨[123, 125], false⟩]

/-- Two requests of one address, a second apart. -/
def twoPosts : List HttpRequest :=
  [⟨keyPost, braces, 0⟩, ⟨keyPost, braces, 1⟩]

/-- Header names without an upper-case letter. -/
def LowercaseNames (pairs : List (String × String)) : Prop :=
  ∀ kv ∈ pairs, kv.1.data.all (fun c => !c.isUpper) = true

/-- Header names as ASGI servers pass them: each name decodes, if at all, to a text without an
upper-case letter. -/
def LowercaseHeaders (decode : List UInt8 → Except String String)
    (pairs : List (HeaderText × HeaderText)) : Prop :=
  ∀ kv ∈ pairs, ∀ name, kv.1.toStr decode = .ok name → name.data.all (fun c => !c.isUpper) = true

theorem lookup_eq_none_of_not_mem {k : String} :
    ∀ {d : List (String × String)}, k ∉ d.map Prod.fst → d.lookup k = none
  | [], _ => rfl
  | (k', v) :: rest, h => by
    have hne : k ≠ k' := fun he => h (he ▸ List.mem_cons_self _ _)
    rw [List.lookup_cons, beq_false_of_ne hne]
    exact lookup_eq_none_of_not_mem fun hk => h (List.mem_cons_of_mem _ hk)

/-- A name with an upper-case letter is never found among lower-case names. -/
theorem LowercaseNames.lookup_eq_none {d : List (String × String)} (h : LowercaseNames d)
    (name : String) (hname : name.data.all (fun c => !c.isUpper) = false) : d.lookup name = none := by
  refine lookup_eq_none_of_not_mem fun hk => ?_
  obtain ⟨kv, hkv, rfl⟩ := List.mem_map.mp hk
  rw [h kv hkv] at hname
  cases hname

theorem LowercaseNames.headerDict {pairs : List (String × String)} (h : LowercaseNames pairs) :
    LowercaseNames (headerDict pairs) :=
  fun kv hkv => h kv (mem_headerDict hkv)

/-- A name with an upper-case letter is never found among lower-case headers. -/
theorem lookup_headerDict_of_upper {pairs : List (String × String)} (h : LowercaseNames pairs)
    (name : String) (hname : name.data.all (fun c => !c.isUpper) = false) :
    (headerDict pairs).lookup name = none :=
  h.headerDict.lookup_eq_none name hname

/-- The headers converted from lower-case names have lower-case names. -/
theorem convertHeaders_lowercase {decode : List UInt8 → Except String String} :
    ∀ {d : List (HeaderText × HeaderText)} {acc headers : List (String × String)},
      LowercaseHeaders decode d → LowercaseNames acc → convertHeaders decode d acc = .ok headers →
        LowercaseNames headers
  | [], _, _, _, hacc, h => by cases h; exact hacc
  | (k, v) :: rest, acc, headers, hd, hacc, h => by
    simp only [convertHeaders, bind, Except.bind] at h
    split at h
    · cases h
    · rename_i key hkey
      split at h
      · cases h
      · refine convertHeaders_lowercase (fun kv hkv => hd kv (List.mem_cons_of_mem _ hkv)) ?_ h
        intro kv hkv
        rcases mem_setHeader hkv with rfl | hkv
        · exact hd _ (List.mem_cons_self _ _) key hkey
        · exact hacc kv hkv

theorem Scope.strHeaders_lowercase {scope : Scope} {decode : List UInt8 → Except String String}
    {headers : List (String × String)} (h : LowercaseHeaders decode scope.headers)
    (hh : scope.strHeaders decode = .ok headers) : LowercaseNames headers :=
  convertHeaders_lowercase (fun kv hkv => h kv (mem_headerDict hkv)) (fun _ h => by cases h) hh

/-- **With lower-case header names only an API key or no credentials authenticate.**  For every
configuration and every request whose header names are lower case, as ASGI servers pass them,
authentication succeeds only with the configured key in `x-api-key`, or anonymously out of strict
mode: the `Authorization` header is never found, so no Bearer token and no Basic credentials are
ever accepted. -/
theorem authenticate_lowercase (config : SecurityConfig) (b64decode : String → Except String String)
    {pairs : List (String × String)} (h : LowercaseNames pairs) (ip : String) (now : ℚ)
    {context : AuthContext}
    (hok : authenticateHeaders config b64decode (headerDict pairs) ip now = .ok context) :
    (context.authMethod = "api_key" ∧ config.apiKey = (headerDict pairs).lookup "x-api-key") ∨
      (context.authMethod = "none" ∧ config.strictMode = false) := by
  have hkey := lookup_headerDict_of_upper h "X-API-Key" (by decide)
  have hauth := lookup_headerDict_of_upper h "Authorization" (by decide)
  unfold authenticateHeaders at hok
  cases hoffer : offeredApiKey (headerDict pairs) with
  | some key =>
    rw [hoffer] at hok
    dsimp only at hok
    by_cases hcfg : (config.apiKey.any (· ≠ "")) ∧ some key = config.apiKey
    · rw [if_pos hcfg] at hok
      cases hok
      refine .inl ⟨rfl, hcfg.2.symm.trans ?_⟩
      simp only [offeredApiKey, hkey, pyOr] at hoffer
      split at hoffer
      · rename_i hx; rw [hx]; split at hoffer <;> cases hoffer; rfl
      · cases hoffer
    · rw [if_neg hcfg] at hok
      cases hok
  | none =>
    rw [hoffer, hauth] at hok
    dsimp only at hok
    by_cases hs : config.strictMode = true
    · rw [if_pos hs] at hok; cases hok
    · rw [if_neg hs] at hok; cases hok; exact .inr ⟨rfl, by simpa using hs⟩

theorem lowercaseNames_keyHeaders : LowercaseNames keyHeaders := by
  unfold LowercaseNames; decide

theorem authenticate_lowercase_keyHeaders :
    LowercaseNames keyHeaders ∧
      ∃ context, authenticateHeaders keyConfig plainCodecs.b64decode (headerDict keyHeaders)
          "10.0.0.1" 0 = .ok context ∧
        ((context.authMethod = "api_key" ∧ keyConfig.apiKey = (headerDict keyHeaders).lookup "x-api-key") ∨
          (context.authMethod = "none" ∧ keyConfig.strictMode = false)) :=
  ⟨lowercaseNames_keyHeaders, _, rfl,
    authenticate_lowercase keyConfig plainCodecs.b64decode lowercaseNames_keyHeaders "10.0.0.1" 0
      (by exact rfl)⟩

/-- Under lower-case header names a `POST` or `PUT` with a body has no `Content-Type`, so validation
refuses it before its body is read. -/
theorem checkRequest_lowercase_post (config : SecurityConfig) (codecs : Codecs) (allowed : Bool)
    {method : String} (endpoint : String) {headers : List (String × String)} (h : LowercaseNames headers)
    (hmethod : method = "POST" ∨ method = "PUT") {body : List UInt8} (hbody : body ≠ [])
    (ip : String) (now : ℚ) :
    ∃ e, checkRequest config codecs allowed method endpoint headers body ip now = .error e ∧
      (e = rateLimitError "Rate limit exceeded" ∨ e = validationError "Request body too large" ∨
        e = validationError "Invalid content type") := by
  have hct := h.lookup_eq_none "Content-Type" (by decide)
  have hpost : method ∈ ["POST", "PUT"] := by rcases hmethod with rfl | rfl <;> decide
  have hallowed : method ∈ allowedMethods := by rcases hmethod with rfl | rfl <;> decide
  unfold checkRequest
  by_cases ha : (!allowed) = true
  · rw [if_pos ha]; exact ⟨_, rfl, .inl rfl⟩
  rw [if_neg ha]
  by_cases hs : body ≠ [] ∧ (body.length : Int) > config.maxRequestSize
  · rw [if_pos hs]; exact ⟨_, rfl, .inr (.inl rfl)⟩
  rw [if_neg hs, if_neg (not_not.mpr hallowed), if_pos ⟨hpost, hbody, by rw [hct]; rfl⟩]
  exact ⟨_, rfl, .inr (.inr rfl)⟩

theorem lowercaseHeaders_keyPost : LowercaseHeaders plainCodecs.decode keyPost.headers := by
  intro kv hkv name hname
  simp only [keyPost, keyHeaders, List.map_cons, List.map_nil, List.mem_cons, List.mem_singleton,
    List.not_mem_nil, or_false] at hkv
  rcases hkv with rfl | rfl <;> cases hname <;> decide

/-- **Authentication grants exactly what it lists, never `admin`.**  For every manager and every
context `authenticate_request` returns, the context is authenticated with `webhook_access` and
`status_read`, or anonymous with `health_check` alone; `authorize_request` allows a permission
exactly when the context lists it and never answers `False`; and the context never lists
`admin`. -/
theorem authorize_authenticated (m : PythonSecurityManager) (b64decode : String → Except String String)
    (headers : List (String × String)) (ip : String) (now : ℚ) {context : AuthContext}
    (h : authenticateHeaders m.config b64decode headers ip now = .ok context) (permission : String) :
    ((context.authenticated = true ∧ context.permissions = ["webhook_access", "status_read"]) ∨
        (context.authenticated = false ∧ context.permissions = ["health_check"])) ∧
      (m.authorizeRequest context permission = .ok true ↔ permission ∈ context.permissions) ∧
      m.authorizeRequest context permission ≠ .ok false ∧ "admin" ∉ context.permissions := by
  have hlists : (context.authenticated = true ∧ context.permissions = ["webhook_access", "status_read"]) ∨
      (context.authenticated = false ∧ context.permissions = ["health_check"]) :=
    (authenticateHeaders_ok h).imp id fun h => ⟨h.1, h.2.2⟩
  have hadmin : "admin" ∉ context.permissions := by
    rcases authenticateHeaders_ok h with ⟨-, hp⟩ | ⟨-, -, hp⟩ <;> rw [hp] <;> decide
  have hgate : ¬(!context.authenticated && m.config.strictMode) = true := by
    rcases authenticateHeaders_ok h with ⟨ha, -⟩ | ⟨-, hs, -⟩ <;> simp [*]
  unfold PythonSecurityManager.authorizeRequest
  rw [if_neg hgate]
  by_cases hp : permission ∈ context.permissions
  · rw [if_pos (.inl hp)]; exact ⟨hlists, iff_of_true rfl hp, by simp, hadmin⟩
  · rw [if_neg (by simp [hp, hadmin])]; exact ⟨hlists, iff_of_false (by simp) hp, by simp, hadmin⟩

theorem authorize_authenticated_keyHeaders :
    ∃ context, authenticateHeaders (PythonSecurityManager.init keyConfig 0).config
        plainCodecs.b64decode (headerDict keyHeaders) "10.0.0.1" 0 = .ok context ∧
      ((context.authenticated = true ∧ context.permissions = ["webhook_access", "status_read"]) ∨
        (context.authenticated = false ∧ context.permissions = ["health_check"])) ∧
      ((PythonSecurityManager.init keyConfig 0).authorizeRequest context "status_read" = .ok true ↔
          "status_read" ∈ context.permissions) ∧
        (PythonSecurityManager.init keyConfig 0).authorizeRequest context "status_read" ≠ .ok false ∧
        "admin" ∉ context.permissions :=
  ⟨_, rfl, authorize_authenticated (.init keyConfig 0) plainCodecs.b64decode (headerDict keyHeaders)
    "10.0.0.1" 0 (by exact rfl) "status_read"⟩

end Security
end Tkkube
