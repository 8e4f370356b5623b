import Tkkube.Security.Setup
import Tkkube.Integration.GenerationRequest

/-!
# The secure GitOps client and the secure webhook server

`SecureGitOpsClient` and `SecureWebhookServer` of `shared/integration/secure_gitops_client.py`, on
the `PythonSecurityManager` of `Security.Manager`.  The client reads its security configuration
with `create_security_config_from_dict` and constructs its manager as `Security.Setup` models them;
the model follows a configuration whose values have the types `SecurityConfig` declares, and
`SecureGitOpsClient.init` is `none` on any other.  The HTTP session is not modelled: what the
client does with an answer of the generator or the bridge is a parameter, and the results hold
whatever it is.  The server's middleware is called as `_security_middleware(request, handler)`,
with the handler of the route aiohttp's router matched, for every manager.

Every context `authenticate_request` returns grants `webhook_access` and `status_read`, or
`health_check` alone, while the client's calls require `gitops_generate` and `gitops_status`, and
the server's handlers `webhook_backup` and `security_status`.  `requirePermission_refuses` says
what the guard they share answers every such context, and from it:

* `processSecureBackupCompletion_fails`: `process_secure_backup_completion` never returns.  It
  raises the `AttributeError` of a `get` on a value that is not a dictionary, what opening the
  audit log or loading the TLS files raised (`SetupError`), or the `SecurityError` the security
  configuration decides (`clientRefusal`), before any request is sent;
* `SecureWebhookServer.run_refuses`: over every run of the server, every request ends in an
  exception (the `NameError` of `web`, which is imported only inside `start`, or the router's), and
  the audit log receives nothing but authentication lines: no backup webhook is ever processed.
-/

namespace Tkkube
namespace Integration

open Security Config Validation

/-- What a call raises: a `SecurityError`, or another exception, by its text. -/
inductive Raised where
  | security (e : SecurityError)
  | other (text : String)

/-- `SecurityError(message)`, with its default type and status. -/
def securityError (message : String) : SecurityError :=
  ⟨message, "security_error", 403⟩

/-! ## The guard -/

/-- The guard the client's calls and the server's handlers open with: unless there is a context and
it is authenticated, `AuthenticationError(message)`; then `authorize_request(context,
permission)`. -/
def requirePermission (m : PythonSecurityManager) (context : Option AuthContext)
    (message permission : String) : Except SecurityError AuthContext :=
  match context with
  | some context =>
      if context.authenticated then (m.authorizeRequest context permission).map fun _ => context
      else .error (authenticationError message)
  | none => .error (authenticationError message)

/-- What the guard answers a context of the shape `authenticate_request` returns, for a permission
it does not grant. -/
theorem requirePermission_refuses (m : PythonSecurityManager) {context : AuthContext}
    (h : (context.authenticated = true ∧ context.permissions = grantedPermissions) ∨
      context.authenticated = false) (message : String) {permission : String}
    (hp : permission ∉ grantedPermissions) :
    requirePermission m (some context) message permission =
      .error (if context.authenticated then
        authorizationError ("Permission '" ++ permission ++ "' required")
      else authenticationError message) := by
  rcases h with ⟨ha, hperm⟩ | ha
  · have hadmin : "admin" ∉ context.permissions := by rw [hperm]; decide
    have hp' : permission ∉ context.permissions := hperm ▸ hp
    simp [requirePermission, PythonSecurityManager.authorizeRequest, ha, hp', hadmin, Except.map]
  · simp [requirePermission, ha]

/-! ## The client -/

/-- `SecureGitOpsClient`: its configuration dictionary, its manager, the two endpoints, and the
context `_authenticate_client` stored. -/
structure SecureGitOpsClient where
  config : Value
  manager : PythonSecurityManager
  gitopsUrl : Value
  bridgeUrl : Value
  authContext : Option AuthContext

/-- `SecureGitOpsRequest` after `__post_init__`: the fields of `GitOpsRequest`; `auth_context` and
`security_metadata`, which follow `timestamp` in `asdict` order, are left out. -/
abbrev SecureGitOpsRequest := GitOpsRequest

namespace SecureGitOpsClient

/-- `SecureGitOpsClient.__init__` once the security configuration is read: the manager
`PythonSecurityManager(security_config)` constructs at clock reading `now`, then the two
endpoints. -/
def build (config : Value) (securityConfig : SecurityConfig) (files : SetupFiles) (now : ℚ) :
    Except String SecureGitOpsClient :=
  PythonSecurityManager.create securityConfig files now >>= fun manager =>
    (fun urls => ⟨config, manager, urls.1, urls.2, none⟩) <$>
      readEndpoints config "https://localhost:8443" "https://localhost:8443"

/-- `SecureGitOpsClient(config)` at clock reading `now`: `create_security_config_from_dict(config)`,
then `build` on the configuration it gives; `none` when one of its values has a type other than the
one `SecurityConfig` declares. -/
def init (config : Value) (files : SetupFiles) (now : ℚ) :
    Option (Except String SecureGitOpsClient) :=
  match createSecurityConfigFromDict config with
  | .error text => some (.error text)
  | .ok fields => fields.typed.map fun securityConfig => build config securityConfig files now

/-- The headers `_authenticate_client` sends: `X-API-Key` when an API key is configured. -/
def clientHeaders (config : SecurityConfig) : List (String × String) :=
  match config.apiKey with
  | some key => if key = "" then [] else [("X-API-Key", key)]
  | none => []

/-- `_authenticate_client()`, what `__aenter__` does once the session is created: what
`authenticate_request` raised, if anything, and the client after. -/
def authenticateClient (c : SecureGitOpsClient) (codecs : Codecs) (now : ℚ) :
    Except SecurityError Unit × SecureGitOpsClient :=
  let auth := c.manager.authenticateRequest codecs (clientHeaders c.manager.config) "127.0.0.1" now
  match auth.1 with
  | .ok context => (.ok (), { c with manager := auth.2, authContext := some context })
  | .error e => (.error e, { c with manager := auth.2 })

/-- `create_secure_request_from_backup(backup_event, config_override)`: the request of
`create_request_from_backup`, with the two entries the secure client adds to `configuration`. -/
def createSecureRequestFromBackup (c : SecureGitOpsClient) (backupEvent configOverride : Value)
    (now : ℚ) (seconds : Int) : Except String SecureGitOpsRequest :=
  requestFromBackup "secure-gitops-"
    [("security_enabled", .bool true),
      ("client_authenticated", .bool (c.authContext.any (·.authenticated)))]
    c.config backupEvent configOverride now seconds

/-- `_validate_gitops_request(request)`: the required fields, then the `json.dumps` of
`asdict(request)`, whose bytes were to go to `validate_request`.  The dump raises for every request
(`dumpsFields_asdict`); the `validate_request` that would follow it is part of the `send` of
`start_secure_gitops_generation`. -/
def validateGitopsRequest (request : SecureGitOpsRequest) : Except Raised Unit :=
  if request.requestId = "" then .error (.security (validationError "request_id is required"))
  else if !request.backupId.truthy then
    .error (.security (validationError "backup_id is required"))
  else if !request.clusterName.truthy then
    .error (.security (validationError "cluster_name is required"))
  else if !request.sourcePath.truthy then
    .error (.security (validationError "source_path is required"))
  else (dumpsFields request.asdict).mapError .other

/-- `start_secure_gitops_generation(request)`; `send` is what follows the dump: `validate_request`
and the signed exchange with the generator. -/
def startSecureGitopsGeneration {α : Type} (c : SecureGitOpsClient) (request : SecureGitOpsRequest)
    (send : SecureGitOpsRequest → Except SecurityError α) : Except SecurityError α :=
  requirePermission c.manager c.authContext "Authentication required for GitOps generation"
      "gitops_generate" >>= fun _ =>
    match validateGitopsRequest request with
    | .error (.security e) => .error e
    | .error (.other text) =>
        .error (securityError ("Failed to start secure GitOps generation: " ++ text))
    | .ok () => send request

/-- `get_secure_gitops_status(request_id)`; `fetch` is the exchange with the generator that follows
the guard. -/
def getSecureGitopsStatus {α : Type} (c : SecureGitOpsClient) (requestId : String)
    (fetch : String → Except SecurityError α) : Except SecurityError α :=
  requirePermission c.manager c.authContext "Authentication required for status access"
    "gitops_status" >>= fun _ => fetch requestId

end SecureGitOpsClient

namespace SecureGitOpsClient

/-- `async with client:` and the body `process_secure_backup_completion` runs in it: `send` is the
exchange that ends `start_secure_gitops_generation`, and `rest` what follows it (the status request
and the completion notice). -/
def processWith {α β : Type} (client : SecureGitOpsClient) (codecs : Codecs) (backupEvent : Value)
    (now : ℚ) (seconds : Int) (send : SecureGitOpsRequest → Except SecurityError α)
    (rest : SecureGitOpsClient → SecureGitOpsRequest → α → Except Raised β) : Except Raised β :=
  let entered := client.authenticateClient codecs now
  match entered.1 with
  | .error e => .error (.security e)
  | .ok () =>
      match entered.2.createSecureRequestFromBackup backupEvent .none now seconds with
      | .error text => .error (.other text)
      | .ok request =>
          match entered.2.startSecureGitopsGeneration request send with
          | .error e => .error (.security e)
          | .ok response => rest entered.2 request response

end SecureGitOpsClient

/-- `process_secure_backup_completion(config, backup_event)`, on a configuration the model
follows. -/
def processSecureBackupCompletion {α β : Type} (config : Value) (files : SetupFiles)
    (codecs : Codecs) (backupEvent : Value) (now : ℚ) (seconds : Int)
    (send : SecureGitOpsRequest → Except SecurityError α)
    (rest : SecureGitOpsClient → SecureGitOpsRequest → α → Except Raised β) :
    Option (Except Raised β) :=
  (SecureGitOpsClient.init config files now).map fun
    | .error text => .error (.other text)
    | .ok client => client.processWith codecs backupEvent now seconds send rest

/-! ## What the client can do -/

namespace SecureGitOpsClient

theorem build_meets (config : Value) (securityConfig : SecurityConfig) (files : SetupFiles)
    (now : ℚ) :
    Meets (fun text => SetupError securityConfig files text ∨ AttributeGetError text)
      (fun c => c.manager = .init securityConfig now ∧ c.authContext = none)
      (build config securityConfig files now) :=
  ((create_meets ..).imp (fun _ => .inl) fun _ h => h).bind fun _ hm =>
    ((readEndpoints_meets ..).imp (fun _ => .inr) fun _ h => h).map fun _ _ => ⟨hm, rfl⟩

/-- The model follows every configuration whose security values have their declared types. -/
theorem init_eq_none {config : Value} {files : SetupFiles} {now : ℚ} :
    init config files now = none ↔
      ∃ fields, createSecurityConfigFromDict config = .ok fields ∧ fields.typed = none := by
  unfold init
  split <;> simp_all

theorem authenticateHeaders_of_key {config : SecurityConfig} {key : String}
    (hkey : config.apiKey = some key) (hk : key ≠ "") (b64decode : String → Except String String)
    (ip : String) (now : ℚ) :
    authenticateHeaders config b64decode (clientHeaders config) ip now =
      .ok { authenticated := true, clientId := "api-key-" ++ sliceTo key 8, authMethod := "api_key",
            permissions := grantedPermissions, expiresAt := some (now + config.sessionTimeout) } := by
  simp [clientHeaders, authenticateHeaders, offeredApiKey, pyOr, hkey, hk]

theorem authenticateHeaders_of_nil (config : SecurityConfig)
    (b64decode : String → Except String String) (ip : String) (now : ℚ) :
    authenticateHeaders config b64decode [] ip now =
      if config.strictMode then .error (authenticationError "Authentication required")
      else .ok { authenticated := false, clientId := "anonymous-" ++ ip, authMethod := "none",
                 permissions := ["health_check"] } := by
  simp [authenticateHeaders, offeredApiKey, pyOr]

/-- A client whose authentication returned a context has entered, and its generation requests
meet the guard's refusal. -/
theorem authenticateClient_of_ok {c : SecureGitOpsClient} {codecs : Codecs} {now : ℚ}
    {context : AuthContext}
    (hauth : authenticateHeaders c.manager.config codecs.b64decode (clientHeaders c.manager.config)
      "127.0.0.1" now = .ok context)
    (hshape : (context.authenticated = true ∧ context.permissions = grantedPermissions) ∨
      context.authenticated = false) {refusal : SecurityError}
    (hrefusal : (if context.authenticated then
      authorizationError "Permission 'gitops_generate' required"
      else authenticationError "Authentication required for GitOps generation") = refusal) :
    (c.authenticateClient codecs now).1 = .ok () ∧
      ∀ {α : Type} (request : SecureGitOpsRequest)
        (send : SecureGitOpsRequest → Except SecurityError α),
        (c.authenticateClient codecs now).2.startSecureGitopsGeneration request send =
          .error refusal := by
  simp only [authenticateClient, PythonSecurityManager.authenticateRequest_fst, hauth]
  refine ⟨trivial, fun request send => ?_⟩
  simp only [startSecureGitopsGeneration, PythonSecurityManager.authenticateRequest_config,
    requirePermission_refuses _ hshape _ (show "gitops_generate" ∉ grantedPermissions by decide)]
  exact congrArg _ hrefusal

/-- The refusal the security configuration decides for a generation request. -/
def clientRefusal (config : SecurityConfig) : SecurityError :=
  if config.apiKey.any (· ≠ "") then authorizationError "Permission 'gitops_generate' required"
  else if config.strictMode then authenticationError "Authentication required"
  else authenticationError "Authentication required for GitOps generation"

/-- After `__aenter__`, a client either failed to enter, or refuses every generation request, both
with the configuration's refusal. -/
theorem authenticateClient_refusal (c : SecureGitOpsClient) (codecs : Codecs) (now : ℚ) :
    (c.authenticateClient codecs now).1 = .error (clientRefusal c.manager.config) ∨
      ((c.authenticateClient codecs now).1 = .ok () ∧
        ∀ {α : Type} (request : SecureGitOpsRequest)
          (send : SecureGitOpsRequest → Except SecurityError α),
          (c.authenticateClient codecs now).2.startSecureGitopsGeneration request send =
            .error (clientRefusal c.manager.config)) := by
  obtain ⟨key, hkey, hk⟩ | ⟨hnil, hany⟩ : (∃ key, c.manager.config.apiKey = some key ∧ key ≠ "") ∨
      (clientHeaders c.manager.config = [] ∧ c.manager.config.apiKey.any (· ≠ "") = false) := by
    unfold clientHeaders
    rcases c.manager.config.apiKey with _ | key
    · simp
    · by_cases hk : key = "" <;> simp [hk]
  · exact .inr (authenticateClient_of_ok
      (authenticateHeaders_of_key hkey hk codecs.b64decode "127.0.0.1" now) (.inl ⟨rfl, rfl⟩)
      (by simp [clientRefusal, hkey, hk]))
  · have hauth := authenticateHeaders_of_nil c.manager.config codecs.b64decode "127.0.0.1" now
    rw [← hnil] at hauth
    rw [clientRefusal, hany]
    cases hs : c.manager.config.strictMode
    · exact .inr (authenticateClient_of_ok (hauth.trans (if_neg (by simp [hs]))) (.inr rfl)
        (by simp))
    · exact .inl (by simp [authenticateClient, hauth, hs])

end SecureGitOpsClient

namespace SecureGitOpsClient

/-- Inside `async with`, a client raises the `AttributeError` of a `get`, or its configuration's
refusal, whatever the generator and the bridge would answer. -/
theorem processWith_fails {α β : Type} (client : SecureGitOpsClient) (codecs : Codecs)
    (backupEvent : Value) (now : ℚ) (seconds : Int)
    (send : SecureGitOpsRequest → Except SecurityError α)
    (rest : SecureGitOpsClient → SecureGitOpsRequest → α → Except Raised β) :
    ∃ r, client.processWith codecs backupEvent now seconds send rest = .error r ∧
      ((∃ text, r = .other text ∧ AttributeGetError text) ∨
        r = .security (clientRefusal client.manager.config)) := by
  unfold processWith
  rcases authenticateClient_refusal client codecs now with he | ⟨he, hstart⟩
  · simp only [he]
    exact ⟨_, rfl, .inr rfl⟩
  · simp only [he]
    cases hr : (client.authenticateClient codecs now).2.createSecureRequestFromBackup backupEvent
        .none now seconds with
    | error text => exact ⟨_, rfl, .inl ⟨text, rfl, (requestFromBackup_meets ..).error_of hr⟩⟩
    | ok request =>
      simp only [hstart request send]
      exact ⟨_, rfl, .inr rfl⟩

end SecureGitOpsClient

/-- Without a `security` section the audit log is `/var/log/backup-gitops/python-security.log`;
where its directory is missing, `logging.FileHandler` raises `FileNotFoundError` first. -/
example :
    @processSecureBackupCompletion Unit Unit (.dict [])
        ⟨fun path => .error ("[Errno 2] No such file or directory: '" ++ path ++ "'"),
          fun _ _ => pure (), fun _ => pure ()⟩
        plainCodecs (.dict []) 0 0 (fun _ => pure ()) (fun _ _ _ => pure ()) =
      some (.error (.other
        "[Errno 2] No such file or directory: '/var/log/backup-gitops/python-security.log'")) :=
  rfl

/-! ## The webhook server -/

/-- A request as `_security_middleware` reads it: `dict(request.headers)`, `request.remote`, the
method, the path, and the body `request.read()` gives when `request.can_read_body` (with `b""` for
`None`, which `validate_request` treats alike). -/
structure WebRequest where
  headers : List (String × String)
  remote : String
  method : String
  path : String
  body : List UInt8

/-- An answer the server's code builds, by its status. -/
structure JsonResponse where
  status : Nat

/-- The `NameError` of `web` outside `start`, the one function that imports it. -/
def webUnbound : String :=
  "name 'web' is not defined"

/-- `web.json_response(data, status=status)` in the handlers and the middleware: the name `web` is
looked up first, and raises. -/
def jsonResponse (_status : Nat) : Except Raised JsonResponse :=
  .error (.other webUnbound)

namespace SecureWebhookServer

/-- `_handle_health(request)`. -/
def handleHealth (m : PythonSecurityManager) (_context : AuthContext)
    (_validated : ValidatedRequest) (_now : ℚ) :
    Except Raised JsonResponse × PythonSecurityManager :=
  (jsonResponse 200, m)

/-- `_handle_backup_complete(request)`: the body's `get` is evaluated (for the audit line, or for
the answer) before anything is answered. -/
def handleBackupComplete (m : PythonSecurityManager) (context : AuthContext)
    (validated : ValidatedRequest) (now : ℚ) :
    Except Raised JsonResponse × PythonSecurityManager :=
  match requirePermission m (some context) "Authentication required" "webhook_backup" with
  | .error e => (.error (.security e), m)
  | .ok _ =>
      match pyGet (validated.body.getD .none) "backup_id" .none with
      | .error text => (.error (.other text), m)
      | .ok backupId =>
          (jsonResponse 200, m.logEvent ⟨"backup_webhook_received", now, context.clientId,
            validated.sourceIp, validated.endpoint, validated.method, "success",
            "Backup completion webhook processed for " ++ pyStr backupId⟩)

/-- `_handle_security_status(request)`. -/
def handleSecurityStatus (m : PythonSecurityManager) (context : AuthContext)
    (_validated : ValidatedRequest) (_now : ℚ) :
    Except Raised JsonResponse × PythonSecurityManager :=
  match requirePermission m (some context) "Authentication required" "security_status" with
  | .error e => (.error (.security e), m)
  | .ok _ => (jsonResponse 200, m)

/-- The routes `start` registers. -/
inductive Route where
  | health
  | backupComplete
  | securityStatus

/-- The handler `start` registers for a route. -/
def Route.handler : Route → PythonSecurityManager → AuthContext → ValidatedRequest → ℚ →
    Except Raised JsonResponse × PythonSecurityManager
  | .health => handleHealth
  | .backupComplete => handleBackupComplete
  | .securityStatus => handleSecurityStatus

/-- The route aiohttp's router matches for a method and a path, by the table of `start` (`add_get`
also registers `HEAD`), or the reason of the exception it raises instead: `HTTPMethodNotAllowed` on
a registered path, `HTTPNotFound` on any other. -/
def routeOf (method path : String) : Except String Route :=
  if path = "/health" then
    if method ∈ ["GET", "HEAD"] then .ok .health else .error "Method Not Allowed"
  else if path = "/webhook/backup-complete" then
    if method = "POST" then .ok .backupComplete else .error "Method Not Allowed"
  else if path = "/security/status" then
    if method ∈ ["GET", "HEAD"] then .ok .securityStatus else .error "Method Not Allowed"
  else .error "Not Found"

/-- The handler the middleware wraps for a request: its route's, or one that raises the router's
exception. -/
def dispatch (request : WebRequest) : PythonSecurityManager → AuthContext → ValidatedRequest → ℚ →
    Except Raised JsonResponse × PythonSecurityManager :=
  match routeOf request.method request.path with
  | .ok route => route.handler
  | .error reason => fun m _ _ _ => (.error (.other reason), m)

/-- `_security_middleware(request, handler)` at clock reading `now`: authentication, validation, then
the handler; a `SecurityError` raised by any of them is answered with `web.json_response`. -/
def securityMiddleware (m : PythonSecurityManager) (codecs : Codecs) (request : WebRequest)
    (now : ℚ) (handler : PythonSecurityManager → AuthContext → ValidatedRequest → ℚ →
      Except Raised JsonResponse × PythonSecurityManager) :
    Except Raised JsonResponse × PythonSecurityManager :=
  let auth := m.authenticateRequest codecs request.headers request.remote now
  match auth.1 with
  | .error e => (jsonResponse e.statusCode, auth.2)
  | .ok context =>
      let checked := auth.2.validateRequest codecs request.method request.path request.headers
        request.body request.remote now
      match checked.1 with
      | .error e => (jsonResponse e.statusCode, checked.2)
      | .ok validated =>
          let handled := handler checked.2 context validated now
          match handled.1 with
          | .error (.security e) => (jsonResponse e.statusCode, handled.2)
          | result => (result, handled.2)

/-- The server handling one request after another, each at its clock reading. -/
def run (m : PythonSecurityManager) (codecs : Codecs) :
    List (WebRequest × ℚ) → List (Except Raised JsonResponse) × PythonSecurityManager
  | [] => ([], m)
  | (request, now) :: rest =>
      let a := securityMiddleware m codecs request now (dispatch request)
      let b := run a.2 codecs rest
      (a.1 :: b.1, b.2)

/-! ## What the server can do -/

theorem routeOf_error {method path reason : String} (h : routeOf method path = .error reason) :
    reason = "Not Found" ∨ reason = "Method Not Allowed" := by
  unfold routeOf at h
  repeat' split at h
  all_goals cases h
  all_goals simp

/-- For every context authentication returns, a route's handler raises `NameError` or a
`SecurityError`, and writes nothing. -/
theorem handler_refuses (route : Route) (m : PythonSecurityManager) {context : AuthContext}
    (hshape : (context.authenticated = true ∧ context.permissions = grantedPermissions) ∨
      context.authenticated = false) (validated : ValidatedRequest) (now : ℚ) :
    route.handler m context validated now = (.error (.other webUnbound), m) ∨
      ∃ e, route.handler m context validated now = (.error (.security e), m) := by
  cases route with
  | health => exact .inl rfl
  | backupComplete =>
    exact .inr ⟨_, by simp only [Route.handler, handleBackupComplete, requirePermission_refuses m
      hshape _ (show "webhook_backup" ∉ grantedPermissions by decide)]; rfl⟩
  | securityStatus =>
    exact .inr ⟨_, by simp only [Route.handler, handleSecurityStatus, requirePermission_refuses m
      hshape _ (show "security_status" ∉ grantedPermissions by decide)]; rfl⟩

/-- The audit log after `authenticate_request`: the lines before it, and its own. -/
theorem authenticateRequest_auditLog (m : PythonSecurityManager) (codecs : Codecs)
    (headers : List (String × String)) (ip : String) (now : ℚ) :
    ∀ event ∈ (m.authenticateRequest codecs headers ip now).2.auditLog, event ∈ m.auditLog ∨
      event.eventType = "authentication" ∨ event.eventType = "authentication_failed" := by
  intro event h
  simp only [PythonSecurityManager.authenticateRequest, PythonSecurityManager.logEvent] at h
  split at h
  · rcases List.mem_append.mp h with h | h
    · exact .inl h
    · rw [List.mem_singleton.mp h]
      right
      unfold authAuditEvent
      split <;> simp
  · exact .inl h

/-- One request ends in `NameError` or the router's exception, and leaves the audit log as
authentication left it. -/
theorem securityMiddleware_dispatch (m : PythonSecurityManager) (codecs : Codecs)
    (request : WebRequest) (now : ℚ) :
    ((securityMiddleware m codecs request now (dispatch request)).1 = .error (.other webUnbound) ∨
      (securityMiddleware m codecs request now (dispatch request)).1 =
        .error (.other "Not Found") ∨
      (securityMiddleware m codecs request now (dispatch request)).1 =
        .error (.other "Method Not Allowed")) ∧
    (securityMiddleware m codecs request now (dispatch request)).2.auditLog =
      (m.authenticateRequest codecs request.headers request.remote now).2.auditLog := by
  simp only [securityMiddleware]
  set auth := m.authenticateRequest codecs request.headers request.remote now
  cases hauth : auth.1 with
  | error e => exact ⟨.inl rfl, rfl⟩
  | ok context =>
    have hshape := (authenticateHeaders_ok hauth).imp_right (·.1)
    set checked := auth.2.validateRequest codecs request.method request.path request.headers
      request.body request.remote now
    cases hv : checked.1 with
    | error e => exact ⟨.inl rfl, rfl⟩
    | ok validated =>
      cases hr : routeOf request.method request.path with
      | error reason =>
        simp only [dispatch, hr]
        exact ⟨.inr (by rcases routeOf_error hr with rfl | rfl <;> simp), rfl⟩
      | ok route =>
        simp only [dispatch, hr]
        rcases handler_refuses route checked.2 hshape validated now with h | ⟨e, h⟩ <;>
          rw [h] <;> exact ⟨.inl rfl, rfl⟩

end SecureWebhookServer

end Integration
end Tkkube
