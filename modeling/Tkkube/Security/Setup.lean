import Tkkube.Security.Manager
import Tkkube.Config.Validation

/-!
# The security manager built from a configuration dictionary

`create_security_config_from_dict` and `PythonSecurityManager.__init__` of `python_security.py`,
which `SecureGitOpsClient.__init__` runs on its configuration dictionary.  The function reads
sixteen values from the `security` section and from its `tls`, `rate_limit`, `audit`, `limits` and
`session` tables, each by a `get` that raises `AttributeError` on a value that is not a dictionary
(`createSecurityConfigFromDict_meets`), and passes them to `SecurityConfig` unchecked.  The model
follows a configuration on only when each value has the type `SecurityConfig` declares
(`SecurityFields.typed`): a value of another type flows into code (`api_key[:8]`,
`logging.FileHandler(log_path)`, the `ssl` loaders) whose behaviour on it is not modelled.

Constructing the manager opens the audit log and, with TLS on, loads the certificate files the
configuration names.  The file system answers each of these (`SetupFiles`), and `create_meets`
says what the construction can raise: `SetupError`.
-/

namespace Tkkube
namespace Security

open Config Validation

/-! ## `create_security_config_from_dict` -/

/-- The values `create_security_config_from_dict` passes to `SecurityConfig`, as the dictionary
holds them. -/
structure SecurityFields where
  enabled : Value
  strictMode : Value
  apiKey : Value
  secretKey : Value
  tlsEnabled : Value
  tlsVerify : Value
  tlsCertPath : Value
  tlsKeyPath : Value
  tlsCaPath : Value
  rateLimitRequests : Value
  rateLimitWindow : Value
  auditEnabled : Value
  auditLogPath : Value
  maxRequestSize : Value
  requestTimeout : Value
  sessionTimeout : Value

/-- `security_data.get(table, {}).get(key, default)`. -/
def getIn (securityData : Value) (table key : String) (default : Value) : Except String Value := do
  pyGet (← pyGet securityData table (.dict [])) key default

/-- `create_security_config_from_dict(config_dict)`: the values it reads, in the order of its
keyword arguments. -/
def createSecurityConfigFromDict (configDict : Value) : Except String SecurityFields := do
  let securityData ← pyGet configDict "security" (.dict [])
  let enabled ← pyGet securityData "enabled" (.bool true)
  let strictMode ← pyGet securityData "strict_mode" (.bool true)
  let apiKey ← pyGet securityData "api_key" .none
  let secretKey ← pyGet securityData "secret_key" .none
  let tlsEnabled ← getIn securityData "tls" "enabled" (.bool true)
  let tlsVerify ← getIn securityData "tls" "verify" (.bool true)
  let tlsCertPath ← getIn securityData "tls" "cert_path" .none
  let tlsKeyPath ← getIn securityData "tls" "key_path" .none
  let tlsCaPath ← getIn securityData "tls" "ca_path" .none
  let rateLimitRequests ← getIn securityData "rate_limit" "requests" (.int 100)
  let rateLimitWindow ← getIn securityData "rate_limit" "window" (.int 60)
  let auditEnabled ← getIn securityData "audit" "enabled" (.bool true)
  let auditLogPath ← getIn securityData "audit" "log_path"
    (.str "/var/log/backup-gitops/python-security.log")
  let maxRequestSize ← getIn securityData "limits" "max_request_size" (.int (1024 * 1024))
  let requestTimeout ← getIn securityData "limits" "request_timeout" (.int 30)
  let sessionTimeout ← getIn securityData "session" "timeout" (.int 1800)
  pure ⟨enabled, strictMode, apiKey, secretKey, tlsEnabled, tlsVerify, tlsCertPath, tlsKeyPath,
    tlsCaPath, rateLimitRequests, rateLimitWindow, auditEnabled, auditLogPath, maxRequestSize,
    requestTimeout, sessionTimeout⟩

theorem getIn_meets (securityData : Value) (table key : String) (default : Value) :
    Meets AttributeGetError (fun _ => True) (getIn securityData table key default) :=
  (meets_pyGet ..).bind fun _ _ => meets_pyGet ..

/-- Reading the configuration raises only the `AttributeError` of a `get` on a value that is not a
dictionary. -/
theorem createSecurityConfigFromDict_meets (configDict : Value) :
    Meets AttributeGetError (fun _ => True) (createSecurityConfigFromDict configDict) := by
  unfold createSecurityConfigFromDict
  repeat' first
    | exact Meets.pure trivial
    | refine (meets_pyGet ..).bind fun _ _ => ?_
    | refine (getIn_meets ..).bind fun _ _ => ?_

/-- A `bool`. -/
def boolOf? : Value → Option Bool
  | .bool b => some b
  | _ => none

/-- An `int`. -/
def intOf? : Value → Option Int
  | .int n => some n
  | _ => none

/-- A `str`. -/
def strOf? : Value → Option String
  | .str s => some s
  | _ => none

/-- An `Optional[str]`: `None` or a `str`. -/
def optStrOf? : Value → Option (Option String)
  | .none => some none
  | .str s => some (some s)
  | _ => none

/-- The `SecurityConfig` the values make when each has the type the dataclass declares for it. -/
def SecurityFields.typed (f : SecurityFields) : Option SecurityConfig :=
  match boolOf? f.enabled, boolOf? f.strictMode, optStrOf? f.apiKey, optStrOf? f.secretKey,
      boolOf? f.tlsEnabled, boolOf? f.tlsVerify, optStrOf? f.tlsCertPath, optStrOf? f.tlsKeyPath,
      optStrOf? f.tlsCaPath, intOf? f.rateLimitRequests, intOf? f.rateLimitWindow,
      boolOf? f.auditEnabled, strOf? f.auditLogPath, intOf? f.maxRequestSize,
      intOf? f.requestTimeout, intOf? f.sessionTimeout with
  | some enabled, some strictMode, some apiKey, some secretKey, some tlsEnabled, some tlsVerify,
      some tlsCertPath, some tlsKeyPath, some tlsCaPath, some rateLimitRequests,
      some rateLimitWindow, some auditEnabled, some auditLogPath, some maxRequestSize,
      some requestTimeout, some sessionTimeout =>
      some ⟨enabled, strictMode, apiKey, secretKey, tlsEnabled, tlsVerify, tlsCertPath, tlsKeyPath,
        tlsCaPath, rateLimitRequests, rateLimitWindow, auditEnabled, auditLogPath, maxRequestSize,
        requestTimeout, sessionTimeout⟩
  | _, _, _, _, _, _, _, _, _, _, _, _, _, _, _, _ => none

/-- The configuration `create_security_config_from_dict(config_dict)` gives, when it returns and
each of its values has its declared type. -/
def securityConfigOf (configDict : Value) : Option SecurityConfig :=
  match createSecurityConfigFromDict configDict with
  | .ok fields => fields.typed
  | .error _ => none

/-- Without a `security` section every value is its default, and the defaults have their declared
types: the configuration is `SecurityConfig()`. -/
theorem securityConfigOf_of_no_security {entries : List (String × Value)}
    (h : entries.lookup "security" = none) : securityConfigOf (.dict entries) = some {} := by
  have hget : pyGet (.dict entries) "security" (.dict []) = .ok (.dict []) := by
    rw [pyGet_dict, h]; rfl
  unfold securityConfigOf createSecurityConfigFromDict
  rw [hget]
  rfl

/-! ## `PythonSecurityManager.__init__` -/

/-- What constructing the manager asks of the file system: `logging.FileHandler(path)` opens the
audit log, and the TLS context's `load_cert_chain(cert, key)` and `load_verify_locations(ca)` read
certificates; each returns, or raises with the text of its `OSError` or `SSLError`. -/
structure SetupFiles where
  openLog : String → Except String Unit
  loadCertChain : String → String → Except String Unit
  loadVerifyLocations : String → Except String Unit

/-- An optional string where `if x:` takes it: a string that is not empty. -/
def present : Option String → Option String
  | some s => if s = "" then none else some s
  | none => none

/-- `_create_tls_context()`, as far as it may raise: the certificate chain when both of its paths
are given, then the CA file when one is. -/
def createTlsContext (config : SecurityConfig) (files : SetupFiles) : Except String Unit :=
  (match present config.tlsCertPath, present config.tlsKeyPath with
    | some cert, some key => files.loadCertChain cert key
    | _, _ => pure ()) >>= fun _ =>
  match present config.tlsCaPath with
  | some ca => files.loadVerifyLocations ca
  | none => pure ()

/-- `PythonSecurityManager(config)` at clock reading `now`: the rate limiter; the audit logger when
auditing is on, which opens its file; the input validator and the crypto manager, which raise
nothing; and the TLS context when TLS is on. -/
def PythonSecurityManager.create (config : SecurityConfig) (files : SetupFiles) (now : ℚ) :
    Except String PythonSecurityManager :=
  (if config.auditEnabled then files.openLog config.auditLogPath else pure ()) >>= fun _ =>
  (if config.tlsEnabled then createTlsContext config files else pure ()) >>= fun _ =>
  pure (.init config now)

/-- What constructing the manager can raise: opening its audit log, or loading the TLS files the
configuration names. -/
def SetupError (config : SecurityConfig) (files : SetupFiles) (text : String) : Prop :=
  (config.auditEnabled = true ∧ files.openLog config.auditLogPath = .error text) ∨
    (config.tlsEnabled = true ∧
      ((∃ cert key, present config.tlsCertPath = some cert ∧ present config.tlsKeyPath = some key ∧
          files.loadCertChain cert key = .error text) ∨
        ∃ ca, present config.tlsCaPath = some ca ∧ files.loadVerifyLocations ca = .error text))

/-- The construction raises only a `SetupError`, and otherwise gives a fresh manager. -/
theorem create_meets (config : SecurityConfig) (files : SetupFiles) (now : ℚ) :
    Meets (SetupError config files) (· = .init config now)
      (PythonSecurityManager.create config files now) := by
  unfold PythonSecurityManager.create
  refine Meets.bind (Q := fun _ => True)
    (.ite (fun ha => .of_error fun e he => .inl ⟨ha, he⟩) fun _ => .pure trivial) fun _ _ => ?_
  refine Meets.bind (Q := fun _ => True) (.ite (fun ht => ?_) fun _ => .pure trivial)
    fun _ _ => .pure rfl
  unfold createTlsContext
  refine Meets.bind (Q := fun _ => True) ?_ fun _ _ => ?_
  · split
    · rename_i cert key hcert hkey
      exact .of_error fun e he => .inr ⟨ht, .inl ⟨cert, key, hcert, hkey, he⟩⟩
    · exact .pure trivial
  · split
    · rename_i ca hca
      exact .of_error fun e he => .inr ⟨ht, .inr ⟨ca, hca, he⟩⟩
    · exact .pure trivial

end Security
end Tkkube
