import Tkkube.Config.Merge

/-!
# Validating a configuration document

`simple_validator.validate_config` and `validator.validate_config` of `shared/config`, on a decoded
document.  Both walk the document with Python's operations on the decoded values, and each of those
raises on a value of another type: `.get` on anything but a mapping, `<=` between a string and an
integer, iteration over a number, `len` of a number, `re.match` and `startswith` on anything but a
string, and `Model(**section)` on anything but a mapping.  A raise ends the validation, so a
document is either validated into a `ValidationResult` or makes `validate_config` raise.

The regular expressions and `urlparse` are not modelled: `Matchers` gives `re.match` and whether
`urlparse` finds a host name.  Pydantic is not modelled: `Models` gives what each section model
makes of its keyword arguments.  The result keeps `valid` equal to "no error was added", which
`add_error` maintains, as a field.

`Returns` says that every run of a validation returns, with one lemma per program former, and
`Fits` that the values at a list of paths have the kinds a validator needs there (a mapping for
`.get`, a number for a comparison, a string where a truthy value meets `str` methods, something
iterable).  `validate_config_raises_on_null_section`: each validator returns on every document that
fits its paths, and both raise on a document whose `storage` is `null`, which does not.
-/

namespace Tkkube
namespace Config
namespace Validation

/-! ## Results -/

/-- `ValidationError(field, value, message, level)`. -/
structure ValidationError where
  field : String
  value : Value
  message : String
  level : String

/-- `ValidationResult`: `valid` is false exactly when an error has been added. -/
structure ValidationResult where
  errors : List ValidationError
  warnings : List ValidationError
  valid : Bool
  valid_eq : valid = errors.isEmpty

/-- `ValidationResult()`. -/
def ValidationResult.init : ValidationResult := ⟨[], [], true, rfl⟩

/-- A validation: an update of its result that a Python exception ends. -/
abbrev ValidateM := EStateM String ValidationResult

/-- `self.result.add_error(field, value, message)`. -/
def addError (field : String) (value : Value) (message : String) : ValidateM Unit :=
  modify fun r => ⟨r.errors ++ [⟨field, value, message, "error"⟩], r.warnings, false, by simp⟩

/-- `self.result.add_warning(field, value, message)`. -/
def addWarning (field : String) (value : Value) (message : String) : ValidateM Unit :=
  modify fun r => ⟨r.errors, r.warnings ++ [⟨field, value, message, "warning"⟩], r.valid, r.valid_eq⟩

/-- Evaluate a Python expression that may raise. -/
def evaluate {α : Type} : Except String α → ValidateM α
  | .ok a => pure a
  | .error msg => throw msg

/-! ## Python's operations on decoded values -/

/-- `v.get(key, default)`. -/
def pyGet (v : Value) (key : String) (default : Value) : Except String Value := do
  let entries ← getEntries v
  return (entries.lookup key).getD default

/-! ## What a call may raise -/

/-- `x` raises only exceptions that satisfy `P`, and returns only values that satisfy `Q`; its rules
for `bind`, `pure`, `<$>` and `if` carry a fact through a `do` block. -/
def Meets {ε α : Type} (P : ε → Prop) (Q : α → Prop) : Except ε α → Prop
  | .error e => P e
  | .ok a => Q a

section Meets

variable {ε α β : Type} {P : ε → Prop} {Q : α → Prop} {R : β → Prop}

theorem Meets.bind {x : Except ε α} {f : α → Except ε β} (hx : Meets P Q x)
    (hf : ∀ a, Q a → Meets P R (f a)) : Meets P R (x >>= f) := by
  cases x with
  | error e => exact hx
  | ok a => exact hf a hx

theorem Meets.pure {a : β} (h : R a) : Meets P R (Pure.pure a) := h

theorem Meets.map {x : Except ε α} {f : α → β} (hx : Meets P Q x) (hf : ∀ a, Q a → R (f a)) :
    Meets P R (f <$> x) := by
  cases x with
  | error e => exact hx
  | ok a => exact hf a hx

theorem Meets.ite {c : Prop} [Decidable c] {x y : Except ε α} (hx : c → Meets P Q x)
    (hy : ¬c → Meets P Q y) : Meets P Q (if c then x else y) := by
  by_cases h : c
  · rw [if_pos h]; exact hx h
  · rw [if_neg h]; exact hy h

theorem Meets.error_of {x : Except ε α} {e : ε} (hx : Meets P Q x) (h : x = .error e) : P e := by
  subst h; exact hx

theorem Meets.ok_of {x : Except ε α} {a : α} (hx : Meets P Q x) (h : x = .ok a) : Q a := by
  subst h; exact hx

/-- A call whose every exception satisfies `P`. -/
theorem Meets.of_error {x : Except ε α} (h : ∀ e, x = .error e → P e) : Meets P (fun _ => True) x := by
  cases x with
  | error e => exact h e rfl
  | ok a => trivial

theorem Meets.imp {P' : ε → Prop} {Q' : α → Prop} {x : Except ε α} (hx : Meets P Q x)
    (hP : ∀ e, P e → P' e) (hQ : ∀ a, Q a → Q' a) : Meets P' Q' x := by
  cases x with
  | error e => exact hP e hx
  | ok a => exact hQ a hx

end Meets

/-- The text of the `AttributeError` of `v.get(...)` on a value `v` that is not a dictionary. -/
def AttributeGetError (text : String) : Prop :=
  ∃ v : Value, text = "'" ++ v.typeName ++ "' object has no attribute 'get'"

theorem meets_pyGet (v : Value) (key : String) (default : Value) :
    Meets AttributeGetError (fun _ => True) (pyGet v key default) := by
  cases v <;> first | exact trivial | exact ⟨_, rfl⟩

/-! ## More operations on decoded values -/

/-- The value of an `int`, a `float` or a `bool` in a comparison with an `int`. -/
def numeric? : Value → Option ℚ
  | .int n => some n
  | .float x => some x
  | .bool b => some (if b then 1 else 0)
  | _ => none

/-- `v <op> n` for an integer `n`: numbers compare, any other value raises. -/
def pyCompare (op : String) (rel : ℚ → ℚ → Bool) (v : Value) (n : Int) : Except String Bool :=
  match numeric? v with
  | some x => .ok (rel x n)
  | none => .error ("'" ++ op ++ "' not supported between instances of '" ++ v.typeName ++ "' and 'int'")

/-- `v <= n`. -/
def pyLe : Value → Int → Except String Bool := pyCompare "<=" fun x y => decide (x ≤ y)

/-- `v < n`. -/
def pyLt : Value → Int → Except String Bool := pyCompare "<" fun x y => decide (x < y)

/-- `v > n`. -/
def pyGt : Value → Int → Except String Bool := pyCompare ">" fun x y => decide (y < x)

/-- `v == n` for an integer `n`: only a number can be equal. -/
def pyEqInt (v : Value) (n : Int) : Bool :=
  numeric? v == some (n : ℚ)

/-- `v == text`. -/
def isStr (v : Value) (text : String) : Bool :=
  match v with
  | .str s => s == text
  | _ => false

/-- `v in choices` for a list of strings. -/
def isOneOf (v : Value) (choices : List String) : Bool :=
  choices.any (isStr v)

/-- `str(v)`. -/
def pyStr : Value → String
  | .str s => s
  | v => v.repr

/-- The items `for item in v` visits: a list's items, a string's characters, a mapping's keys. -/
def pyIter : Value → Except String (List Value)
  | .list items => .ok items
  | .str s => .ok (s.data.map fun c => .str (String.singleton c))
  | .dict entries => .ok (entries.map fun kv => .str kv.1)
  | v => .error ("'" ++ v.typeName ++ "' object is not iterable")

/-- `len(v)`. -/
def pyLen : Value → Except String Nat
  | .str s => .ok s.length
  | .list items => .ok items.length
  | .dict entries => .ok entries.length
  | v => .error ("object of type '" ++ v.typeName ++ "' has no len()")

/-- A method of `str` returning a boolean; any other value has no such attribute. -/
def strMethod (name : String) (f : String → Bool) : Value → Except String Bool
  | .str s => .ok (f s)
  | v => .error ("'" ++ v.typeName ++ "' object has no attribute '" ++ name ++ "'")

/-- What the validators ask of text: `bool(re.match(pattern, text))`, and whether
`urlparse(text).hostname` is not `None` (the `try` around it answers `False` when it raises). -/
structure Matchers where
  reMatch : String → String → Bool
  hasHostname : String → Bool

/-- `re.match(pattern, v)`: a value other than a string raises. -/
def pyMatch (m : Matchers) (pattern : String) : Value → Except String Bool
  | .str s => .ok (m.reMatch pattern s)
  | v => .error ("expected string or bytes-like object, got '" ++ v.typeName ++ "'")

/-! ## `SimpleConfigValidator` -/

namespace SimpleConfigValidator

/-- `_is_valid_endpoint(endpoint)`. -/
def isValidEndpoint (m : Matchers) (endpoint : Value) : Except String Bool := do
  if ← strMethod "startswith" (fun s => s.startsWith "http://" || s.startsWith "https://") endpoint then
    return m.hasHostname (pyStr endpoint)
  pyMatch m "^[a-zA-Z0-9\\-\\.]+:\\d+$" endpoint

/-- `_is_valid_bucket_name(bucket)`. -/
def isValidBucketName (m : Matchers) (bucket : Value) : Except String Bool := do
  let n ← pyLen bucket
  if n < 3 || n > 63 then return false
  pyMatch m "^[a-z0-9][a-z0-9\\-]*[a-z0-9]$" bucket

/-- `_is_valid_domain(domain)`. -/
def isValidDomain (m : Matchers) (domain : Value) : Except String Bool :=
  pyMatch m "^([a-zA-Z0-9]([a-zA-Z0-9\\-]{0,61}[a-zA-Z0-9])?\\.)*[a-zA-Z0-9]([a-zA-Z0-9\\-]{0,61}[a-zA-Z0-9])?$"
    domain

/-- The patterns of `_is_valid_git_url`. -/
def gitPatterns : List String :=
  ["^git@", "^ssh://", "^https?://.*\\.git$", "^https?://(github\\.com|gitlab\\.com|bitbucket\\.org)"]

/-- `_is_valid_git_url(url)`: `any` stops at the first pattern that matches. -/
def isValidGitUrl (m : Matchers) (url : Value) : Except String Bool :=
  gitPatterns.anyM fun pattern => pyMatch m pattern url

/-- `_is_valid_branch_name(branch)`. -/
def isValidBranchName (m : Matchers) (branch : Value) : Except String Bool := do
  if !branch.truthy then return false
  if ← strMethod "startswith" (·.startsWith "/") branch then return false
  if ← strMethod "endswith" (·.endsWith "/") branch then return false
  pyMatch m "^[a-zA-Z0-9/_\\-\\.]+$" branch

/-- `if not value: add_error(field, reported, message)`. -/
def require (field : String) (value reported : Value) (message : String) : ValidateM Unit :=
  if value.truthy then pure () else addError field reported message

/-- `if value not in choices: add_error(field, value, message)`. -/
def checkChoice (field : String) (value : Value) (choices : List String) (message : String) :
    ValidateM Unit :=
  if isOneOf value choices then pure () else addError field value message

/-- `if value and not check(value): add_error(field, value, message)`. -/
def checkFormat (field : String) (value : Value) (check : Value → Except String Bool)
    (message : String) : ValidateM Unit := do
  if value.truthy then
    if !(← evaluate (check value)) then addError field value message

/-- `_validate_storage`. -/
def validateStorage (m : Matchers) (config : Value) : ValidateM Unit := do
  let storage ← evaluate (pyGet config "storage" (.dict []))
  ["type", "endpoint", "access_key", "secret_key", "bucket"].forM fun field => do
    let value ← evaluate (pyGet storage field .none)
    require ("storage." ++ field) value value ("Storage " ++ field ++ " is required")
  let storageType ← evaluate (pyGet storage "type" (.str ""))
  if storageType.truthy && !isOneOf storageType ["minio", "s3"] then
    addError "storage.type" storageType "Storage type must be 'minio' or 's3'"
  let endpoint ← evaluate (pyGet storage "endpoint" (.str ""))
  checkFormat "storage.endpoint" endpoint (isValidEndpoint m) "Invalid endpoint format"
  let bucket ← evaluate (pyGet storage "bucket" (.str ""))
  checkFormat "storage.bucket" bucket (isValidBucketName m) "Invalid bucket name format"
  if isStr storageType "s3" then
    let region ← evaluate (pyGet storage "region" .none)
    require "storage.region" region region "Region is required for S3 storage"

/-- `_validate_cluster`. -/
def validateCluster (m : Matchers) (config : Value) : ValidateM Unit := do
  let cluster ← evaluate (pyGet config "cluster" (.dict []))
  let name ← evaluate (pyGet cluster "name" .none)
  require "cluster.name" name name "Cluster name is required"
  let clusterType ← evaluate (pyGet cluster "type" (.str "kubernetes"))
  checkChoice "cluster.type" clusterType ["kubernetes", "openshift"]
    "Cluster type must be 'kubernetes' or 'openshift'"
  let domain ← evaluate (pyGet cluster "domain" (.str ""))
  checkFormat "cluster.domain" domain (isValidDomain m) "Invalid domain format"

/-- `_validate_backup`. -/
def validateBackup (config : Value) : ValidateM Unit := do
  let backup ← evaluate (pyGet config "backup" (.dict []))
  let filtering ← evaluate (pyGet backup "filtering" (.dict []))
  let mode ← evaluate (pyGet filtering "mode" (.str "whitelist"))
  checkChoice "backup.filtering.mode" mode ["whitelist", "blacklist", "hybrid"] "Invalid filtering mode"
  let behavior ← evaluate (pyGet backup "behavior" (.dict []))
  let batchSize ← evaluate (pyGet behavior "batch_size" (.int 50))
  let outOfRange ← evaluate do
    if ← pyLe batchSize 0 then pure true else pyGt batchSize 1000
  if outOfRange then
    addError "backup.behavior.batch_size" batchSize "Batch size must be between 1 and 1000"
  else if ← evaluate (pyGt batchSize 500) then
    addWarning "backup.behavior.batch_size" batchSize "Large batch size may cause performance issues"
  let cleanup ← evaluate (pyGet backup "cleanup" (.dict []))
  let retentionDays ← evaluate (pyGet cleanup "retention_days" (.int 7))
  if ← evaluate (pyLt retentionDays 0) then
    addError "backup.cleanup.retention_days" retentionDays "Retention days cannot be negative"
  else if pyEqInt retentionDays 0 then
    addWarning "backup.cleanup.retention_days" retentionDays "Zero retention days means immediate deletion"

/-- `_validate_gitops`. -/
def validateGitops (m : Matchers) (config : Value) : ValidateM Unit := do
  let gitops ← evaluate (pyGet config "gitops" (.dict []))
  let repository ← evaluate (pyGet gitops "repository" (.dict []))
  let url ← evaluate (pyGet repository "url" (.str ""))
  if !url.truthy then
    addError "gitops.repository.url" url "Git repository URL is required"
  else if !(← evaluate (isValidGitUrl m url)) then
    addError "gitops.repository.url" url "Invalid Git repository URL format"
  let branch ← evaluate (pyGet repository "branch" (.str "main"))
  if !(← evaluate (isValidBranchName m branch)) then
    addError "gitops.repository.branch" branch "Invalid Git branch name"
  let auth ← evaluate (pyGet repository "auth" (.dict []))
  let method ← evaluate (pyGet auth "method" (.str "ssh"))
  checkChoice "gitops.repository.auth.method" method ["ssh", "pat", "basic", "none"]
    "Invalid authentication method"
  if isStr method "ssh" then
    let ssh ← evaluate (pyGet auth "ssh" (.dict []))
    let path ← evaluate (pyGet ssh "private_key_path" .none)
    require "gitops.repository.auth.ssh.private_key_path" path (.str "") "SSH private key path is required"
  else if isStr method "pat" then
    let pat ← evaluate (pyGet auth "pat" (.dict []))
    let token ← evaluate (pyGet pat "token" .none)
    require "gitops.repository.auth.pat.token" token (.str "") "PAT token is required"
  else if isStr method "basic" then
    let basic ← evaluate (pyGet auth "basic" (.dict []))
    let username ← evaluate (pyGet basic "username" .none)
    require "gitops.repository.auth.basic.username" username (.str "") "Username is required for basic auth"
    let password ← evaluate (pyGet basic "password" .none)
    require "gitops.repository.auth.basic.password" password (.str "") "Password is required for basic auth"

/-- `_validate_pipeline`. -/
def validatePipeline (config : Value) : ValidateM Unit := do
  let pipeline ← evaluate (pyGet config "pipeline" (.dict []))
  let mode ← evaluate (pyGet pipeline "mode" (.str "sequential"))
  checkChoice "pipeline.mode" mode ["sequential", "parallel", "manual"] "Invalid pipeline mode"
  let automation ← evaluate (pyGet pipeline "automation" (.dict []))
  if (← evaluate (pyGet automation "enabled" (.bool true))).truthy then
    let maxWait ← evaluate (pyGet automation "max_wait_time" (.int 300))
    if ← evaluate (pyLe maxWait 0) then
      addError "pipeline.automation.max_wait_time" maxWait "Max wait time must be positive"
    let triggerMethods ← evaluate (pyGet automation "trigger_methods" (.list []))
    (← evaluate (pyIter triggerMethods)).forM fun method =>
      checkChoice "pipeline.automation.trigger_methods" method ["file", "process", "webhook", "script"]
        ("Invalid trigger method: " ++ pyStr method)

/-- `_validate_cross_field_rules`. -/
def validateCrossFieldRules (config : Value) : ValidateM Unit := do
  let gitops ← evaluate (pyGet config "gitops" (.dict []))
  let gitopsStructure ← evaluate (pyGet gitops "structure" (.dict []))
  let argocd ← evaluate (pyGet gitopsStructure "argocd" (.dict []))
  if (← evaluate (pyGet argocd "enabled" (.bool true))).truthy then
    let repository ← evaluate (pyGet gitops "repository" (.dict []))
    let url ← evaluate (pyGet repository "url" .none)
    require "gitops.repository.url" url (.str "") "Git repository URL is required when ArgoCD is enabled"
  let storage ← evaluate (pyGet config "storage" (.dict []))
  if (← evaluate (pyGet storage "auto_create_bucket" .none)).truthy then
    if isStr (← evaluate (pyGet storage "type" .none)) "s3" then
      addWarning "storage.auto_create_bucket" (.bool true)
        "Ensure AWS credentials have bucket creation permissions"
  let pipeline ← evaluate (pyGet config "pipeline" (.dict []))
  let automation ← evaluate (pyGet pipeline "automation" (.dict []))
  if (← evaluate (pyGet automation "enabled" .none)).truthy then
    let triggerMethods ← evaluate (pyGet automation "trigger_methods" .none)
    require "pipeline.automation.trigger_methods" triggerMethods (.list [])
      "At least one trigger method required when automation is enabled"

/-- `validate()`. -/
def validate (m : Matchers) (config : Value) : ValidateM Unit := do
  validateStorage m config
  validateCluster m config
  validateBackup config
  validateGitops m config
  validatePipeline config
  validateCrossFieldRules config

end SimpleConfigValidator

/-- The result of a validation run from `ValidationResult()`, or the exception that ended it. -/
def runValidation (x : ValidateM Unit) : Except String ValidationResult :=
  match x.run ValidationResult.init with
  | .ok () r => .ok r
  | .error e _ => .error e

/-- `simple_validator.validate_config(config_dict)`. -/
def simpleValidateConfig (m : Matchers) (config : Value) : Except String ValidationResult :=
  runValidation (SimpleConfigValidator.validate m config)

/-! ## `ConfigValidator` -/

/-- An error of pydantic's `e.errors()`: its location (each part as `str` gives it), its input and
its message. -/
structure PydanticError where
  loc : List String
  input : Value
  msg : String

/-- The fields of a validated `ValidatedBackupConfig` that the warnings read. -/
structure ValidatedBackup where
  batchSize : Int
  cleanupEnabled : Bool
  retentionDays : Int

/-- What the pydantic section models make of their keyword arguments: the errors of the
`PydanticValidationError` they raise, none when the model is built, and for the backup model the
validated values.  `module` is the `__module__` of the model classes, which depends on how
`validator.py` was imported (`config.validator` through the loader's `from .validator import`). -/
structure Models where
  module : String
  storage : List (String × Value) → List PydanticError
  backup : List (String × Value) → Except (List PydanticError) ValidatedBackup
  gitops : List (String × Value) → List PydanticError
  pipeline : List (String × Value) → List PydanticError

/-- The keyword arguments of `model(**section)`, for the class `model` of module `module`: a value
other than a mapping raises before the model sees it, with the class named as CPython names a
callable, by its module and its name. -/
def splat (module model : String) : Value → Except String (List (String × Value))
  | .dict entries => .ok entries
  | v => .error (module ++ ("." ++ model ++ "() argument after ** must be a mapping, not " ++ v.typeName))

namespace ConfigValidator

/-- The `except PydanticValidationError` of a section: every error, under the section's name. -/
def reportErrors (sectionName : String) (errors : List PydanticError) : ValidateM Unit :=
  errors.forM fun error => addError (sectionName ++ "." ++ ".".intercalate error.loc) error.input error.msg

/-- `_validate_storage`, `_validate_gitops` and `_validate_pipeline`: build the section's model
from its mapping and report its errors. -/
def validateSection (module sectionName model : String)
    (build : List (String × Value) → List PydanticError) (config : Value) : ValidateM Unit := do
  let sectionConfig ← evaluate (pyGet config sectionName (.dict []))
  let arguments ← evaluate (splat module model sectionConfig)
  reportErrors sectionName (build arguments)

/-- `_validate_storage`. -/
def validateStorage (models : Models) : Value → ValidateM Unit :=
  validateSection models.module "storage" "ValidatedStorageConfig" models.storage

/-- `_validate_backup`: the model's errors, or the warnings on its validated values. -/
def validateBackup (models : Models) (config : Value) : ValidateM Unit := do
  let backupConfig ← evaluate (pyGet config "backup" (.dict []))
  let arguments ← evaluate (splat models.module "ValidatedBackupConfig" backupConfig)
  match models.backup arguments with
  | .error errors => reportErrors "backup" errors
  | .ok validated =>
      if validated.batchSize > 500 then
        addWarning "backup.behavior.batch_size" (.int validated.batchSize)
          "Large batch size may cause performance issues"
      if validated.cleanupEnabled && validated.retentionDays == 0 then
        addWarning "backup.cleanup.retention_days" (.int 0) "Zero retention days means immediate deletion"

/-- `_validate_gitops`. -/
def validateGitops (models : Models) : Value → ValidateM Unit :=
  validateSection models.module "gitops" "ValidatedGitOpsConfig" models.gitops

/-- `_validate_pipeline`. -/
def validatePipeline (models : Models) : Value → ValidateM Unit :=
  validateSection models.module "pipeline" "ValidatedPipelineConfig" models.pipeline

/-- `_validate_cross_field_rules`. -/
def validateCrossFieldRules (config : Value) : ValidateM Unit := do
  let gitops ← evaluate (pyGet config "gitops" (.dict []))
  let gitopsStructure ← evaluate (pyGet gitops "structure" (.dict []))
  let argocd ← evaluate (pyGet gitopsStructure "argocd" (.dict []))
  if (← evaluate (pyGet argocd "enabled" (.bool true))).truthy then
    let repository ← evaluate (pyGet gitops "repository" (.dict []))
    let url ← evaluate (pyGet repository "url" .none)
    SimpleConfigValidator.require "gitops.repository.url" url (.str "")
      "Git repository URL is required when ArgoCD is enabled"
  let storage ← evaluate (pyGet config "storage" (.dict []))
  if (← evaluate (pyGet storage "auto_create_bucket" .none)).truthy then
    if isStr (← evaluate (pyGet storage "type" .none)) "s3" then
      addWarning "storage.auto_create_bucket" (.bool true)
        "Ensure AWS credentials have bucket creation permissions"
  let security ← evaluate (pyGet config "security" (.dict []))
  let performance ← evaluate (pyGet config "performance" (.dict []))
  let validation ← evaluate (pyGet security "validation" (.dict []))
  if (← evaluate (pyGet validation "strict_mode" (.bool true))).truthy then
    let limits ← evaluate (pyGet performance "limits" (.dict []))
    let operations ← evaluate (pyGet limits "max_concurrent_operations" (.int 10))
    if ← evaluate (pyGt operations 50) then
      addWarning "security.validation.strict_mode" (.bool true)
        "Strict validation with high concurrency may impact performance"

/-- `validate()`. -/
def validate (models : Models) (config : Value) : ValidateM Unit := do
  validateStorage models config
  validateBackup models config
  validateGitops models config
  validatePipeline models config
  validateCrossFieldRules config

end ConfigValidator

/-- `validator.validate_config(config_dict)`. -/
def validateConfig (models : Models) (config : Value) : Except String ValidationResult :=
  runValidation (ConfigValidator.validate models config)

/-! ## Runs that return -/

/-- Every run of `x` returns. -/
def Returns {α : Type} (x : ValidateM α) : Prop :=
  ∀ r, ∃ a r', x.run r = .ok a r'

theorem Returns.ofPure {α : Type} (a : α) : Returns (pure a : ValidateM α) :=
  fun r => ⟨a, r, rfl⟩

theorem Returns.ofBind {α β : Type} {x : ValidateM α} {f : α → ValidateM β} (hx : Returns x)
    (hf : ∀ a, Returns (f a)) : Returns (x >>= f) := by
  intro r
  obtain ⟨a, r', h⟩ := hx r
  obtain ⟨b, r'', h'⟩ := hf a r'
  exact ⟨b, r'', (run_bind_ok h).trans h'⟩

/-- An expression that evaluates to `a` goes on with `a`. -/
theorem Returns.ofEvaluate {α β : Type} {e : Except String α} {a : α} {f : α → ValidateM β}
    (h : e = .ok a) (hf : Returns (f a)) : Returns (evaluate e >>= f) := by
  subst h
  exact hf

theorem Returns.ofIte {α : Type} {c : Prop} [Decidable c] {x y : ValidateM α} (hx : Returns x)
    (hy : Returns y) : Returns (if c then x else y) := by
  split
  · exact hx
  · exact hy

/-- An `else` branch that may use the failed condition. -/
theorem Returns.ofIteElse {α : Type} {c : Prop} [Decidable c] {x y : ValidateM α} (hx : Returns x)
    (hy : ¬ c → Returns y) : Returns (if c then x else y) := by
  split
  · exact hx
  · exact hy ‹_›

/-- An expression that evaluates to some value goes on with it, whichever it is. -/
theorem Returns.ofEvaluateAny {α β : Type} {e : Except String α} {f : α → ValidateM β}
    (h : ∃ a, e = .ok a) (hf : ∀ a, Returns (f a)) : Returns (evaluate e >>= f) := by
  obtain ⟨a, h⟩ := h
  exact Returns.ofEvaluate h (hf a)

theorem Returns.ofForM {α : Type} {f : α → ValidateM Unit} :
    ∀ {l : List α}, (∀ a ∈ l, Returns (f a)) → Returns (l.forM f)
  | [], _ => Returns.ofPure ()
  | a :: l, h => by
      rw [List.forM_cons']
      exact Returns.ofBind (h a (List.mem_cons_self _ _)) fun _ =>
        Returns.ofForM fun b hb => h b (List.mem_cons_of_mem _ hb)

theorem Returns.ofAddError (field : String) (value : Value) (message : String) :
    Returns (addError field value message) :=
  fun _ => ⟨(), _, rfl⟩

theorem Returns.ofAddWarning (field : String) (value : Value) (message : String) :
    Returns (addWarning field value message) :=
  fun _ => ⟨(), _, rfl⟩

/-! ## Documents the validators return on -/

/-- What a validator needs of the value at a path of the document. -/
inductive Kind where
  /-- read with `.get` -/
  | mapping
  /-- compared with an integer -/
  | number
  /-- handed to a method of `str` or to `re.match` when truthy -/
  | text
  /-- iterated -/
  | iterable
  deriving DecidableEq

/-- The values a validator can take where it needs `kind`. -/
def Kind.admits : Kind → Value → Bool
  | .mapping, .dict _ => true
  | .number, v => (numeric? v).isSome
  | .text, .str _ => true
  | .text, v => !v.truthy
  | .iterable, .list _ => true
  | .iterable, .str _ => true
  | .iterable, .dict _ => true
  | _, _ => false

/-- The value at `path` of `config`, if there is one, is one a validator can take where it needs
`kind`. -/
def TypedAt (config : Value) (path : List String) (kind : Kind) : Prop :=
  ∀ v, valueAt config path = some v → kind.admits v = true

/-- Every path of `typed` holds a value of its kind, or nothing. -/
def Fits (typed : List (List String × Kind)) (config : Value) : Bool :=
  typed.all fun entry =>
    match valueAt config entry.1 with
    | some v => entry.2.admits v
    | none => true

theorem typedAt_of_fits {typed : List (List String × Kind)} {config : Value}
    (h : Fits typed config = true) {path : List String} {kind : Kind} (hp : (path, kind) ∈ typed) :
    TypedAt config path kind := by
  intro v hv
  have := List.all_eq_true.mp h _ hp
  simpa [hv] using this

@[simp] theorem pyGet_dict (entries : List (String × Value)) (key : String) (default : Value) :
    pyGet (.dict entries) key default = .ok ((entries.lookup key).getD default) :=
  rfl

/-- `config.get(key, {})` of a mapping is a mapping when the value at `key` is one, and the paths
below it are typed as they are below `key`. -/
theorem TypedAt.get {entries : List (String × Value)} {key : String}
    (h : TypedAt (.dict entries) [key] .mapping) :
    ∃ sub, pyGet (.dict entries) key (.dict []) = .ok (.dict sub) ∧
      ∀ {key' path kind}, TypedAt (.dict entries) (key :: key' :: path) kind →
        TypedAt (.dict sub) (key' :: path) kind := by
  cases hl : entries.lookup key with
  | none => exact ⟨[], by rw [pyGet_dict, hl]; rfl, fun _ v hv => by simp [valueAt] at hv⟩
  | some v =>
      have hv := h v (by simp [valueAt, hl])
      cases v
      case dict sub =>
        exact ⟨sub, by rw [pyGet_dict, hl]; rfl,
          fun ht w hw => ht w (by simp [valueAt, hl] at hw ⊢; exact hw)⟩
      all_goals cases hv

/-- `entries.get(key, default)` is of a kind when the value at `key` and the default are. -/
theorem TypedAt.getD {entries : List (String × Value)} {key : String} {kind : Kind}
    (h : TypedAt (.dict entries) [key] kind) {default : Value} (hd : kind.admits default = true) :
    kind.admits ((entries.lookup key).getD default) = true := by
  cases hl : entries.lookup key with
  | none => exact hd
  | some v => exact h v (by simp [valueAt, hl])

theorem pyCompare_ok {op : String} {rel : ℚ → ℚ → Bool} {v : Value} (n : Int)
    (h : Kind.number.admits v = true) : ∃ b, pyCompare op rel v n = .ok b := by
  simp only [Kind.admits, Option.isSome_iff_exists] at h
  obtain ⟨x, hx⟩ := h
  exact ⟨_, by rw [pyCompare, hx]⟩

theorem pyIter_ok {v : Value} (h : Kind.iterable.admits v = true) :
    ∃ items, pyIter v = .ok items := by
  cases v <;> first | exact ⟨_, rfl⟩ | cases h

theorem Kind.text_admits {v : Value} (h : Kind.text.admits v = true) (hv : v.truthy = true) :
    ∃ s, v = .str s := by
  cases v
  case str s => exact ⟨s, rfl⟩
  all_goals simp_all [Kind.admits]

/-- A document is a mapping when its root is typed as one. -/
theorem exists_dict_of_typedAt {config : Value} (h : TypedAt config [] .mapping) :
    ∃ entries, config = .dict entries := by
  cases config with
  | dict entries => exact ⟨entries, rfl⟩
  | _ => cases h _ rfl

/-- A run from `ValidationResult()` that returns gives a result. -/
theorem runValidation_of_returns {x : ValidateM Unit} (h : Returns x) :
    ∃ r, runValidation x = .ok r := by
  obtain ⟨⟨⟩, r, hr⟩ := h ValidationResult.init
  exact ⟨r, by rw [runValidation, hr]⟩

namespace SimpleConfigValidator

theorem Returns.ofRequire (field : String) (value reported : Value) (message : String) :
    Returns (require field value reported message) :=
  Returns.ofIte (Returns.ofPure ()) (Returns.ofAddError _ _ _)

theorem Returns.ofCheckChoice (field : String) (value : Value) (choices : List String)
    (message : String) : Returns (checkChoice field value choices message) :=
  Returns.ofIte (Returns.ofPure ()) (Returns.ofAddError _ _ _)

theorem Returns.ofCheckFormat {field : String} {value : Value} {check : Value → Except String Bool}
    {message : String} (h : value.truthy = true → ∃ b, check value = .ok b) :
    Returns (checkFormat field value check message) := by
  unfold checkFormat
  split
  · obtain ⟨b, hb⟩ := h ‹_›
    exact Returns.ofEvaluate hb (Returns.ofIte (Returns.ofAddError _ _ _) (Returns.ofPure ()))
  · exact Returns.ofPure ()

theorem isValidEndpoint_ok (m : Matchers) {v : Value} (h : Kind.text.admits v = true)
    (hv : v.truthy = true) : ∃ b, isValidEndpoint m v = .ok b := by
  obtain ⟨s, rfl⟩ := Kind.text_admits h hv
  simp only [isValidEndpoint, strMethod, pyMatch, bind, Except.bind]
  split <;> exact ⟨_, rfl⟩

theorem isValidBucketName_ok (m : Matchers) {v : Value} (h : Kind.text.admits v = true)
    (hv : v.truthy = true) : ∃ b, isValidBucketName m v = .ok b := by
  obtain ⟨s, rfl⟩ := Kind.text_admits h hv
  simp only [isValidBucketName, pyLen, pyMatch, bind, Except.bind]
  split <;> exact ⟨_, rfl⟩

theorem isValidDomain_ok (m : Matchers) {v : Value} (h : Kind.text.admits v = true)
    (hv : v.truthy = true) : ∃ b, isValidDomain m v = .ok b := by
  obtain ⟨s, rfl⟩ := Kind.text_admits h hv
  exact ⟨_, rfl⟩

theorem anyM_ok {α : Type} {f : α → Except String Bool} :
    ∀ {l : List α}, (∀ a ∈ l, ∃ b, f a = .ok b) → ∃ b, l.anyM f = .ok b
  | [], _ => ⟨false, rfl⟩
  | a :: l, h => by
      obtain ⟨b, hb⟩ := h a (List.mem_cons_self _ _)
      obtain ⟨b', hb'⟩ := anyM_ok fun a' ha' => h a' (List.mem_cons_of_mem _ ha')
      cases b
      · exact ⟨b', by simp only [List.anyM, hb, bind, Except.bind]; exact hb'⟩
      · exact ⟨true, by simp only [List.anyM, hb, bind, Except.bind]; rfl⟩

theorem isValidGitUrl_ok (m : Matchers) {v : Value} (h : Kind.text.admits v = true)
    (hv : v.truthy = true) : ∃ b, isValidGitUrl m v = .ok b := by
  obtain ⟨s, rfl⟩ := Kind.text_admits h hv
  exact anyM_ok fun _ _ => ⟨_, rfl⟩

theorem isValidBranchName_ok (m : Matchers) {v : Value} (h : Kind.text.admits v = true) :
    ∃ b, isValidBranchName m v = .ok b := by
  by_cases hv : v.truthy = true
  · obtain ⟨s, rfl⟩ := Kind.text_admits h hv
    cases hs : s.startsWith "/" <;> cases he : s.endsWith "/" <;>
      simp [isValidBranchName, strMethod, pyMatch, hv, hs, he, bind, Except.bind, pure, Except.pure]
  · simp only [isValidBranchName, hv]
    exact ⟨false, rfl⟩

section Sections

variable (m : Matchers) {entries : List (String × Value)}

theorem returns_validateStorage (hs : TypedAt (.dict entries) ["storage"] .mapping)
    (he : TypedAt (.dict entries) ["storage", "endpoint"] .text)
    (hb : TypedAt (.dict entries) ["storage", "bucket"] .text) :
    Returns (validateStorage m (.dict entries)) := by
  obtain ⟨storage, hget, hsub⟩ := hs.get
  have he := (hsub he).getD (show Kind.text.admits (.str "") = true from rfl)
  have hb := (hsub hb).getD (show Kind.text.admits (.str "") = true from rfl)
  refine Returns.ofEvaluate hget (Returns.ofBind (Returns.ofForM fun _ _ =>
    Returns.ofEvaluate rfl (Returns.ofRequire _ _ _ _)) fun _ => ?_)
  refine Returns.ofEvaluate rfl (Returns.ofIte (Returns.ofBind (Returns.ofAddError _ _ _) ?rest)
    (Returns.ofBind (Returns.ofPure _) ?rest))
  intro
  refine Returns.ofEvaluate rfl (Returns.ofBind (Returns.ofCheckFormat
    (isValidEndpoint_ok m he)) fun _ => ?_)
  refine Returns.ofEvaluate rfl (Returns.ofBind (Returns.ofCheckFormat
    (isValidBucketName_ok m hb)) fun _ => ?_)
  exact Returns.ofIte (Returns.ofEvaluate rfl (Returns.ofRequire _ _ _ _)) (Returns.ofPure ())

theorem returns_validateCluster (hc : TypedAt (.dict entries) ["cluster"] .mapping)
    (hd : TypedAt (.dict entries) ["cluster", "domain"] .text) :
    Returns (validateCluster m (.dict entries)) := by
  obtain ⟨cluster, hget, hsub⟩ := hc.get
  have hd := (hsub hd).getD (show Kind.text.admits (.str "") = true from rfl)
  exact Returns.ofEvaluate hget (Returns.ofEvaluate rfl (Returns.ofBind (Returns.ofRequire _ _ _ _)
    fun _ => Returns.ofEvaluate rfl (Returns.ofBind (Returns.ofCheckChoice _ _ _ _)
      fun _ => Returns.ofEvaluate rfl (Returns.ofCheckFormat (isValidDomain_ok m hd)))))

theorem outOfRange_ok {v : Value} (h : Kind.number.admits v = true) (lo hi : Int) :
    ∃ b, (do if ← pyLe v lo then pure true else pyGt v hi : Except String Bool) = .ok b := by
  obtain ⟨b, hb⟩ := @pyCompare_ok "<=" (fun x y => decide (x ≤ y)) _ lo h
  obtain ⟨b', hb'⟩ := @pyCompare_ok ">" (fun x y => decide (y < x)) _ hi h
  cases b <;> simp only [pyLe, pyGt, hb, hb', bind, Except.bind] <;> exact ⟨_, rfl⟩

theorem returns_validateBackup (hb : TypedAt (.dict entries) ["backup"] .mapping)
    (hf : TypedAt (.dict entries) ["backup", "filtering"] .mapping)
    (hbe : TypedAt (.dict entries) ["backup", "behavior"] .mapping)
    (hs : TypedAt (.dict entries) ["backup", "behavior", "batch_size"] .number)
    (hc : TypedAt (.dict entries) ["backup", "cleanup"] .mapping)
    (hr : TypedAt (.dict entries) ["backup", "cleanup", "retention_days"] .number) :
    Returns (validateBackup (.dict entries)) := by
  obtain ⟨backup, hget, hsub⟩ := hb.get
  obtain ⟨filtering, hgetf, -⟩ := (hsub hf).get
  obtain ⟨behavior, hgetb, hsubb⟩ := (hsub hbe).get
  obtain ⟨cleanup, hgetc, hsubc⟩ := (hsub hc).get
  have hs := (hsubb (hsub hs)).getD (show Kind.number.admits (.int 50) = true from rfl)
  have hr := (hsubc (hsub hr)).getD (show Kind.number.admits (.int 7) = true from rfl)
  refine Returns.ofEvaluate hget (Returns.ofEvaluate hgetf (Returns.ofEvaluate rfl
    (Returns.ofBind (Returns.ofCheckChoice _ _ _ _) fun _ => Returns.ofEvaluate hgetb
      (Returns.ofEvaluate rfl (Returns.ofEvaluateAny (outOfRange_ok hs 0 1000) fun _ => ?_)))))
  refine Returns.ofIte (Returns.ofBind (Returns.ofAddError _ _ _) ?rest)
    (Returns.ofEvaluateAny (pyCompare_ok 500 hs) fun _ => Returns.ofIte
      (Returns.ofBind (Returns.ofAddWarning _ _ _) ?rest) (Returns.ofBind (Returns.ofPure _) ?rest))
  intro
  exact Returns.ofEvaluate hgetc (Returns.ofEvaluate rfl (Returns.ofEvaluateAny (pyCompare_ok 0 hr)
    fun _ => Returns.ofIte (Returns.ofAddError _ _ _)
      (Returns.ofIte (Returns.ofAddWarning _ _ _) (Returns.ofPure ()))))

theorem returns_validateGitops (hg : TypedAt (.dict entries) ["gitops"] .mapping)
    (hr : TypedAt (.dict entries) ["gitops", "repository"] .mapping)
    (hu : TypedAt (.dict entries) ["gitops", "repository", "url"] .text)
    (hbr : TypedAt (.dict entries) ["gitops", "repository", "branch"] .text)
    (ha : TypedAt (.dict entries) ["gitops", "repository", "auth"] .mapping)
    (hssh : TypedAt (.dict entries) ["gitops", "repository", "auth", "ssh"] .mapping)
    (hpat : TypedAt (.dict entries) ["gitops", "repository", "auth", "pat"] .mapping)
    (hbasic : TypedAt (.dict entries) ["gitops", "repository", "auth", "basic"] .mapping) :
    Returns (validateGitops m (.dict entries)) := by
  obtain ⟨gitops, hget, hsub⟩ := hg.get
  obtain ⟨repository, hgetr, hsubr⟩ := (hsub hr).get
  have hu := (hsubr (hsub hu)).getD (show Kind.text.admits (.str "") = true from rfl)
  have hbr := (hsubr (hsub hbr)).getD (show Kind.text.admits (.str "main") = true from rfl)
  obtain ⟨auth, hgeta, hsuba⟩ := (hsubr (hsub ha)).get
  obtain ⟨ssh, hgets, -⟩ := (hsuba (hsubr (hsub hssh))).get
  obtain ⟨pat, hgetp, -⟩ := (hsuba (hsubr (hsub hpat))).get
  obtain ⟨basic, hgetb, -⟩ := (hsuba (hsubr (hsub hbasic))).get
  refine Returns.ofEvaluate hget (Returns.ofEvaluate hgetr (Returns.ofEvaluate rfl ?_))
  refine Returns.ofIteElse (Returns.ofBind (Returns.ofAddError _ _ _) ?url)
    fun hu' => Returns.ofEvaluateAny (isValidGitUrl_ok m hu (by simpa using hu')) fun _ =>
      Returns.ofIte (Returns.ofBind (Returns.ofAddError _ _ _) ?url)
        (Returns.ofBind (Returns.ofPure _) ?url)
  intro
  refine Returns.ofEvaluate rfl (Returns.ofEvaluateAny (isValidBranchName_ok m hbr) fun _ =>
    Returns.ofIte (Returns.ofBind (Returns.ofAddError _ _ _) ?branch)
      (Returns.ofBind (Returns.ofPure _) ?branch))
  intro
  refine Returns.ofEvaluate hgeta (Returns.ofEvaluate rfl
    (Returns.ofBind (Returns.ofCheckChoice _ _ _ _) fun _ => ?_))
  exact Returns.ofIte
    (Returns.ofEvaluate hgets (Returns.ofEvaluate rfl (Returns.ofRequire _ _ _ _)))
    (Returns.ofIte (Returns.ofEvaluate hgetp (Returns.ofEvaluate rfl (Returns.ofRequire _ _ _ _)))
      (Returns.ofIte (Returns.ofEvaluate hgetb (Returns.ofEvaluate rfl (Returns.ofBind
        (Returns.ofRequire _ _ _ _) fun _ => Returns.ofEvaluate rfl (Returns.ofRequire _ _ _ _))))
        (Returns.ofPure ())))

theorem returns_validatePipeline (hp : TypedAt (.dict entries) ["pipeline"] .mapping)
    (ha : TypedAt (.dict entries) ["pipeline", "automation"] .mapping)
    (hw : TypedAt (.dict entries) ["pipeline", "automation", "max_wait_time"] .number)
    (ht : TypedAt (.dict entries) ["pipeline", "automation", "trigger_methods"] .iterable) :
    Returns (validatePipeline (.dict entries)) := by
  obtain ⟨pipeline, hget, hsub⟩ := hp.get
  obtain ⟨automation, hgeta, hsuba⟩ := (hsub ha).get
  have hw := (hsuba (hsub hw)).getD (show Kind.number.admits (.int 300) = true from rfl)
  have ht := (hsuba (hsub ht)).getD (show Kind.iterable.admits (.list []) = true from rfl)
  refine Returns.ofEvaluate hget (Returns.ofEvaluate rfl
    (Returns.ofBind (Returns.ofCheckChoice _ _ _ _) fun _ => Returns.ofEvaluate hgeta
      (Returns.ofEvaluate rfl (Returns.ofIte ?_ (Returns.ofPure ())))))
  refine Returns.ofEvaluate rfl (Returns.ofEvaluateAny (pyCompare_ok 0 hw) fun _ =>
    Returns.ofIte (Returns.ofBind (Returns.ofAddError _ _ _) ?rest)
      (Returns.ofBind (Returns.ofPure _) ?rest))
  intro
  exact Returns.ofEvaluate rfl (Returns.ofEvaluateAny (pyIter_ok ht) fun _ =>
    Returns.ofForM fun _ _ => Returns.ofCheckChoice _ _ _ _)

theorem returns_validateCrossFieldRules (hg : TypedAt (.dict entries) ["gitops"] .mapping)
    (hs : TypedAt (.dict entries) ["gitops", "structure"] .mapping)
    (ha : TypedAt (.dict entries) ["gitops", "structure", "argocd"] .mapping)
    (hr : TypedAt (.dict entries) ["gitops", "repository"] .mapping)
    (hst : TypedAt (.dict entries) ["storage"] .mapping)
    (hp : TypedAt (.dict entries) ["pipeline"] .mapping)
    (hau : TypedAt (.dict entries) ["pipeline", "automation"] .mapping) :
    Returns (validateCrossFieldRules (.dict entries)) := by
  obtain ⟨gitops, hget, hsub⟩ := hg.get
  obtain ⟨gitopsStructure, hgets, hsubs⟩ := (hsub hs).get
  obtain ⟨argocd, hgeta, -⟩ := (hsubs (hsub ha)).get
  obtain ⟨repository, hgetr, -⟩ := (hsub hr).get
  obtain ⟨storage, hgetst, -⟩ := hst.get
  obtain ⟨pipeline, hgetp, hsubp⟩ := hp.get
  obtain ⟨automation, hgetau, -⟩ := (hsubp hau).get
  refine Returns.ofEvaluate hget (Returns.ofEvaluate hgets (Returns.ofEvaluate hgeta
    (Returns.ofEvaluate rfl (Returns.ofIte (Returns.ofEvaluate hgetr (Returns.ofEvaluate rfl
      (Returns.ofBind (Returns.ofRequire _ _ _ _) ?argocd)))
      (Returns.ofBind (Returns.ofPure _) ?argocd)))))
  intro
  refine Returns.ofEvaluate hgetst (Returns.ofEvaluate rfl (Returns.ofIte (Returns.ofEvaluate rfl
    (Returns.ofIte (Returns.ofBind (Returns.ofAddWarning _ _ _) ?bucket)
      (Returns.ofBind (Returns.ofPure _) ?bucket))) (Returns.ofBind (Returns.ofPure _) ?bucket)))
  intro
  exact Returns.ofEvaluate hgetp (Returns.ofEvaluate hgetau (Returns.ofEvaluate rfl
    (Returns.ofIte (Returns.ofEvaluate rfl (Returns.ofRequire _ _ _ _)) (Returns.ofPure ()))))

end Sections

/-- The paths `SimpleConfigValidator` reads and the kind it needs at each. -/
def typedPaths : List (List String × Kind) :=
  [([], .mapping),
    (["storage"], .mapping), (["storage", "endpoint"], .text), (["storage", "bucket"], .text),
    (["cluster"], .mapping), (["cluster", "domain"], .text),
    (["backup"], .mapping), (["backup", "filtering"], .mapping), (["backup", "behavior"], .mapping),
    (["backup", "behavior", "batch_size"], .number), (["backup", "cleanup"], .mapping),
    (["backup", "cleanup", "retention_days"], .number),
    (["gitops"], .mapping), (["gitops", "repository"], .mapping),
    (["gitops", "repository", "url"], .text), (["gitops", "repository", "branch"], .text),
    (["gitops", "repository", "auth"], .mapping), (["gitops", "repository", "auth", "ssh"], .mapping),
    (["gitops", "repository", "auth", "pat"], .mapping),
    (["gitops", "repository", "auth", "basic"], .mapping),
    (["gitops", "structure"], .mapping), (["gitops", "structure", "argocd"], .mapping),
    (["pipeline"], .mapping), (["pipeline", "automation"], .mapping),
    (["pipeline", "automation", "max_wait_time"], .number),
    (["pipeline", "automation", "trigger_methods"], .iterable)]

theorem simpleValidateConfig_returns (m : Matchers) {config : Value}
    (h : Fits typedPaths config = true) : ∃ r, simpleValidateConfig m config = .ok r := by
  have t : ∀ {path kind}, (path, kind) ∈ typedPaths → TypedAt config path kind :=
    typedAt_of_fits h
  obtain ⟨entries, rfl⟩ := exists_dict_of_typedAt (t (by decide))
  exact runValidation_of_returns <|
    Returns.ofBind (returns_validateStorage m (t (by decide)) (t (by decide))
      (t (by decide))) fun _ =>
    Returns.ofBind (returns_validateCluster m (t (by decide)) (t (by decide))) fun _ =>
    Returns.ofBind (returns_validateBackup (t (by decide)) (t (by decide)) (t (by decide))
      (t (by decide)) (t (by decide)) (t (by decide))) fun _ =>
    Returns.ofBind (returns_validateGitops m (t (by decide)) (t (by decide)) (t (by decide))
      (t (by decide)) (t (by decide)) (t (by decide)) (t (by decide)) (t (by decide))) fun _ =>
    Returns.ofBind (returns_validatePipeline (t (by decide)) (t (by decide)) (t (by decide))
      (t (by decide))) fun _ =>
    returns_validateCrossFieldRules (t (by decide)) (t (by decide)) (t (by decide)) (t (by decide))
      (t (by decide)) (t (by decide)) (t (by decide))

end SimpleConfigValidator

namespace ConfigValidator

variable (models : Models) {entries : List (String × Value)}

theorem returns_reportErrors (sectionName : String) (errors : List PydanticError) :
    Returns (reportErrors sectionName errors) :=
  Returns.ofForM fun _ _ => Returns.ofAddError _ _ _

theorem returns_validateSection {module sectionName model : String}
    {build : List (String × Value) → List PydanticError}
    (hs : TypedAt (.dict entries) [sectionName] .mapping) :
    Returns (validateSection module sectionName model build (.dict entries)) := by
  obtain ⟨sub, hget, -⟩ := hs.get
  exact Returns.ofEvaluate hget (Returns.ofEvaluate rfl (returns_reportErrors _ _))

theorem returns_validateBackup (hb : TypedAt (.dict entries) ["backup"] .mapping) :
    Returns (validateBackup models (.dict entries)) := by
  obtain ⟨backup, hget, -⟩ := hb.get
  refine Returns.ofEvaluate hget (Returns.ofEvaluate rfl ?_)
  dsimp only
  split
  · exact returns_reportErrors _ _
  · refine Returns.ofIte (Returns.ofBind (Returns.ofAddWarning _ _ _) ?rest)
      (Returns.ofBind (Returns.ofPure _) ?rest)
    intro
    exact Returns.ofIte (Returns.ofAddWarning _ _ _) (Returns.ofPure ())

theorem returns_validateCrossFieldRules (hg : TypedAt (.dict entries) ["gitops"] .mapping)
    (hs : TypedAt (.dict entries) ["gitops", "structure"] .mapping)
    (ha : TypedAt (.dict entries) ["gitops", "structure", "argocd"] .mapping)
    (hr : TypedAt (.dict entries) ["gitops", "repository"] .mapping)
    (hst : TypedAt (.dict entries) ["storage"] .mapping)
    (hse : TypedAt (.dict entries) ["security"] .mapping)
    (hv : TypedAt (.dict entries) ["security", "validation"] .mapping)
    (hp : TypedAt (.dict entries) ["performance"] .mapping)
    (hl : TypedAt (.dict entries) ["performance", "limits"] .mapping)
    (ho : TypedAt (.dict entries) ["performance", "limits", "max_concurrent_operations"] .number) :
    Returns (validateCrossFieldRules (.dict entries)) := by
  obtain ⟨gitops, hget, hsub⟩ := hg.get
  obtain ⟨gitopsStructure, hgets, hsubs⟩ := (hsub hs).get
  obtain ⟨argocd, hgeta, -⟩ := (hsubs (hsub ha)).get
  obtain ⟨repository, hgetr, -⟩ := (hsub hr).get
  obtain ⟨storage, hgetst, -⟩ := hst.get
  obtain ⟨security, hgetse, hsubse⟩ := hse.get
  obtain ⟨validation, hgetv, -⟩ := (hsubse hv).get
  obtain ⟨performance, hgetp, hsubp⟩ := hp.get
  obtain ⟨limits, hgetl, hsubl⟩ := (hsubp hl).get
  have ho := (hsubl (hsubp ho)).getD (show Kind.number.admits (.int 10) = true from rfl)
  refine Returns.ofEvaluate hget (Returns.ofEvaluate hgets (Returns.ofEvaluate hgeta
    (Returns.ofEvaluate rfl (Returns.ofIte (Returns.ofEvaluate hgetr (Returns.ofEvaluate rfl
      (Returns.ofBind (SimpleConfigValidator.Returns.ofRequire _ _ _ _) ?argocd)))
      (Returns.ofBind (Returns.ofPure _) ?argocd)))))
  intro
  refine Returns.ofEvaluate hgetst (Returns.ofEvaluate rfl (Returns.ofIte (Returns.ofEvaluate rfl
    (Returns.ofIte (Returns.ofBind (Returns.ofAddWarning _ _ _) ?bucket)
      (Returns.ofBind (Returns.ofPure _) ?bucket))) (Returns.ofBind (Returns.ofPure _) ?bucket)))
  intro
  exact Returns.ofEvaluate hgetse (Returns.ofEvaluate hgetp (Returns.ofEvaluate hgetv
    (Returns.ofEvaluate rfl (Returns.ofIte (Returns.ofEvaluate hgetl (Returns.ofEvaluate rfl
      (Returns.ofEvaluateAny (pyCompare_ok 50 ho) fun _ =>
        Returns.ofIte (Returns.ofAddWarning _ _ _) (Returns.ofPure ())))) (Returns.ofPure ())))))

/-- The paths `ConfigValidator` reads outside the pydantic models and the kind it needs at each. -/
def typedPaths : List (List String × Kind) :=
  [([], .mapping), (["storage"], .mapping), (["backup"], .mapping), (["gitops"], .mapping),
    (["pipeline"], .mapping), (["gitops", "structure"], .mapping),
    (["gitops", "structure", "argocd"], .mapping), (["gitops", "repository"], .mapping),
    (["security"], .mapping), (["security", "validation"], .mapping), (["performance"], .mapping),
    (["performance", "limits"], .mapping),
    (["performance", "limits", "max_concurrent_operations"], .number)]

theorem validateConfig_returns {config : Value} (h : Fits typedPaths config = true) :
    ∃ r, validateConfig models config = .ok r := by
  have t : ∀ {path kind}, (path, kind) ∈ typedPaths → TypedAt config path kind :=
    typedAt_of_fits h
  obtain ⟨entries, rfl⟩ := exists_dict_of_typedAt (t (by decide))
  exact runValidation_of_returns <|
    Returns.ofBind (returns_validateSection (t (by decide))) fun _ =>
    Returns.ofBind (returns_validateBackup models (t (by decide))) fun _ =>
    Returns.ofBind (returns_validateSection (t (by decide))) fun _ =>
    Returns.ofBind (returns_validateSection (t (by decide))) fun _ =>
    returns_validateCrossFieldRules (t (by decide)) (t (by decide)) (t (by decide)) (t (by decide))
      (t (by decide)) (t (by decide)) (t (by decide)) (t (by decide)) (t (by decide)) (t (by decide))

end ConfigValidator

/-! ## Documents the validators raise on -/

/-- A document whose `storage` is `null`, as `storage:` with no value decodes. -/
def nullStorage : Value :=
  .dict [("storage", .none)]

/-- A document whose `backup.behavior.batch_size` is the string `"50"`. -/
def stringBatchSize : Value :=
  .dict [("backup", .dict [("behavior", .dict [("batch_size", .str "50")])])]

/-- **The validators raise on a null section and on a string batch size.**  Whatever the regular
expressions and the pydantic models do, each validator returns a result on every document in which
the values it reads have the types its operations need (`SimpleConfigValidator.typedPaths`,
`ConfigValidator.typedPaths`).
A document whose `storage` is `null` has none of those types there: `simple_validator.validate_config`
raises `AttributeError` on it and `validator.validate_config` raises `TypeError`, naming the
storage model by its module.  The simple validator also raises `TypeError` on the string
`batch_size` `"50"`. -/
theorem validate_config_raises_on_null_section :
    (∀ m config, Fits SimpleConfigValidator.typedPaths config = true →
        ∃ r, simpleValidateConfig m config = .ok r) ∧
      (∀ models config, Fits ConfigValidator.typedPaths config = true →
        ∃ r, validateConfig models config = .ok r) ∧
      (Fits SimpleConfigValidator.typedPaths nullStorage = false ∧
        Fits ConfigValidator.typedPaths nullStorage = false ∧
        Fits SimpleConfigValidator.typedPaths stringBatchSize = false) ∧
      (∀ m, simpleValidateConfig m nullStorage = .error "'NoneType' object has no attribute 'get'") ∧
      (∀ models, validateConfig models nullStorage = .error (models.module ++
        ".ValidatedStorageConfig() argument after ** must be a mapping, not NoneType")) ∧
      ∀ m, simpleValidateConfig m stringBatchSize =
        .error "'<=' not supported between instances of 'str' and 'int'" :=
  ⟨fun m _ h => SimpleConfigValidator.simpleValidateConfig_returns m h,
    fun models _ h => ConfigValidator.validateConfig_returns models h, by decide,
    fun _ => rfl, fun _ => rfl, fun _ => rfl⟩

end Validation
end Config
end Tkkube
