import Tkkube.Value
import Tkkube.Path
import Tkkube.Config.Shared

/-!
# Loading and saving the shared configuration

`ConfigLoader` of `shared/config/loader.py`:

* `configToDict` is `_config_to_dict`, the dictionary `save_to_file` dumps as YAML;
* `mergeConfigs` is `_merge_configs`, which copies a fixed set of fields from a decoded document
  into the configuration, section by section;
* `loadFile`, `applyEnvironmentOverrides`, `expandEnvironmentVariables` and
  `loadWithoutValidation` are the loading steps, and `ConfigLoader.load` adds `_validate`, which raises
  on every configuration (`ConfigLoader.load_error`).

`_merge_configs` changes the configuration object in place, and `_load_file` returns that object
also when the merge raises, so the merge is a state update whose changes survive a raise
(`EStateM`).  A file is its content as `yaml.safe_load` returns it: `none` when the file does not
exist, an error when it cannot be read or parsed.  `saveToFile` is the content `save_to_file`
leaves, under the assumption that PyYAML loads back what it dumped.

The merge reads 22 fields, and `_config_to_dict` writes many more, so a configuration comes back
from its file with all other fields at their defaults (`mergeConfigs_configToDict`).
-/

namespace Tkkube
namespace Config

/-! ## Python's dictionary access on decoded values -/

/-- `key in v` for a string key: the keys of a dictionary, the items of a list, the substrings of a
string; other values are not iterable. -/
def pyContains (v : Value) (key : String) : Except String Bool :=
  match v with
  | .dict entries => .ok (Dict.contains entries key)
  | .list items => .ok (items.any fun item => match item with
      | .str s => s == key
      | _ => false)
  | .str s => .ok (s.data.tails.any key.data.isPrefixOf)
  | v => .error ("argument of type '" ++ v.typeName ++ "' is not iterable")

/-- `v[key]` for a string key. -/
def pyGetItem (v : Value) (key : String) : Except String Value :=
  match v with
  | .dict entries =>
      match entries.lookup key with
      | some item => .ok item
      | none => .error (Value.quote key)
  | .list _ => .error "list indices must be integers or slices, not str"
  | .str _ => .error "string indices must be integers, not 'str'"
  | v => .error ("'" ++ v.typeName ++ "' object is not subscriptable")

/-- The entries `v.get(key, default)` reads; a value other than a dictionary has no `get`. -/
def getEntries (v : Value) : Except String (List (String × Value)) :=
  match v with
  | .dict entries => .ok entries
  | v => .error ("'" ++ v.typeName ++ "' object has no attribute 'get'")

theorem pyContains_dict (entries : List (String × Value)) (key : String) :
    pyContains (.dict entries) key = .ok (entries.lookup key).isSome := by
  show Except.ok _ = _
  rw [Bool.eq_iff_iff.mpr Dict.contains_iff_lookup]

theorem pyGetItem_dict_of_lookup {entries : List (String × Value)} {key : String} {v : Value}
    (h : entries.lookup key = some v) : pyGetItem (.dict entries) key = .ok v := by
  simp only [pyGetItem, h]

/-- The decoded values of a field's annotated type. -/
class FieldValue (α : Type) where
  ofValue? : Value → Option α

instance : FieldValue String := ⟨fun | .str s => some s | _ => none⟩
instance : FieldValue Bool := ⟨fun | .bool b => some b | _ => none⟩
instance : FieldValue Int := ⟨fun | .int n => some n | _ => none⟩

/-- `entries.get(key, current)` stored into a field of type `α`.  A value of another type cannot be
held by the typed field; the field then keeps `current`. -/
def getOr {α : Type} [FieldValue α] (entries : List (String × Value)) (key : String) (current : α) :
    α :=
  match entries.lookup key with
  | some v => (FieldValue.ofValue? v).getD current
  | none => current

/-! ## Saving -/

/-- `_config_to_dict(config)`. -/
def configToDict (config : SharedConfig) : Value :=
  .dict [
    ("schema_version", .str config.schemaVersion),
    ("description", .str config.description),
    ("storage", .dict [
      ("type", .str config.storage.type),
      ("endpoint", .str config.storage.endpoint),
      ("access_key", .str config.storage.accessKey),
      ("secret_key", .str config.storage.secretKey),
      ("bucket", .str config.storage.bucket),
      ("use_ssl", .bool config.storage.useSsl),
      ("region", .str config.storage.region),
      ("auto_create_bucket", .bool config.storage.autoCreateBucket),
      ("fallback_buckets", .list (config.storage.fallbackBuckets.map .str)),
      ("connection", .dict [
        ("timeout", .int config.storage.connection.timeout),
        ("max_retries", .int config.storage.connection.maxRetries),
        ("retry_delay", .int config.storage.connection.retryDelay.intTotalSeconds)])]),
    ("cluster", .dict [
      ("name", .str config.cluster.name),
      ("domain", .str config.cluster.domain),
      ("type", .str config.cluster.type),
      ("openshift", .dict [
        ("mode", .str config.cluster.openshift.mode),
        ("include_resources", .bool config.cluster.openshift.includeResources)])]),
    ("backup", .dict [
      ("filtering", .dict [
        ("mode", .str config.backup.filtering.mode),
        ("resources", .dict [
          ("include", .list (config.backup.filtering.resources.include.map .str)),
          ("exclude", .list (config.backup.filtering.resources.exclude.map .str))]),
        ("namespaces", .dict [
          ("include", .list (config.backup.filtering.namespaces.include.map .str)),
          ("exclude", .list (config.backup.filtering.namespaces.exclude.map .str))]),
        ("label_selector", .str config.backup.filtering.labelSelector),
        ("annotation_selector", .str config.backup.filtering.annotationSelector)]),
      ("behavior", .dict [
        ("batch_size", .int config.backup.behavior.batchSize),
        ("validate_yaml", .bool config.backup.behavior.validateYaml),
        ("skip_invalid_resources", .bool config.backup.behavior.skipInvalidResources),
        ("include_managed_fields", .bool config.backup.behavior.includeManagedFields),
        ("include_status", .bool config.backup.behavior.includeStatus),
        ("max_resource_size", .str config.backup.behavior.maxResourceSize),
        ("follow_owner_references", .bool config.backup.behavior.followOwnerReferences)]),
      ("cleanup", .dict [
        ("enabled", .bool config.backup.cleanup.enabled),
        ("retention_days", .int config.backup.cleanup.retentionDays),
        ("cleanup_on_startup", .bool config.backup.cleanup.cleanupOnStartup)])]),
    ("gitops", .dict [
      ("repository", .dict [
        ("url", .str config.gitops.repository.url),
        ("branch", .str config.gitops.repository.branch),
        ("auth", .dict [
          ("method", .str config.gitops.repository.auth.method),
          ("ssh", .dict [
            ("private_key_path", .str config.gitops.repository.auth.ssh.privateKeyPath),
            ("passphrase", .str config.gitops.repository.auth.ssh.passphrase)]),
          ("pat", .dict [
            ("token", .str config.gitops.repository.auth.pat.token),
            ("username", .str config.gitops.repository.auth.pat.username)]),
          ("basic", .dict [
            ("username", .str config.gitops.repository.auth.basic.username),
            ("password", .str config.gitops.repository.auth.basic.password)])])]),
      ("structure", .dict [
        ("base_dir", .str config.gitops.structure.baseDir),
        ("environments", .list (config.gitops.structure.environments.map fun env => .dict [
          ("name", .str env.name),
          ("cluster_url", .str env.clusterUrl),
          ("auto_sync", .bool env.autoSync),
          ("replicas", .int env.replicas)])),
        ("argocd", .dict [
          ("enabled", .bool config.gitops.structure.argocd.enabled),
          ("namespace", .str config.gitops.structure.argocd.namespace),
          ("project", .str config.gitops.structure.argocd.project),
          ("sync_policy", .dict [
            ("automated", .bool config.gitops.structure.argocd.syncPolicy.automated),
            ("prune", .bool config.gitops.structure.argocd.syncPolicy.prune),
            ("self_heal", .bool config.gitops.structure.argocd.syncPolicy.selfHeal)])]),
        ("kustomize", .dict [
          ("enabled", .bool config.gitops.structure.kustomize.enabled),
          ("strategic_merge", .bool config.gitops.structure.kustomize.strategicMerge)])])]),
    ("pipeline", .dict [
      ("mode", .str config.pipeline.mode),
      ("automation", .dict [
        ("enabled", .bool config.pipeline.automation.enabled),
        ("trigger_on_backup_complete", .bool config.pipeline.automation.triggerOnBackupComplete),
        ("wait_for_backup", .bool config.pipeline.automation.waitForBackup),
        ("max_wait_time", .int config.pipeline.automation.maxWaitTime)]),
      ("notifications", .dict [
        ("enabled", .bool config.pipeline.notifications.enabled),
        ("webhook", .dict [
          ("url", .str config.pipeline.notifications.webhook.url),
          ("on_success", .bool config.pipeline.notifications.webhook.onSuccess),
          ("on_failure", .bool config.pipeline.notifications.webhook.onFailure)]),
        ("slack", .dict [
          ("webhook_url", .str config.pipeline.notifications.slack.webhookUrl),
          ("channel", .str config.pipeline.notifications.slack.channel)])]),
      ("error_handling", .dict [
        ("continue_on_error", .bool config.pipeline.errorHandling.continueOnError),
        ("max_retries", .int config.pipeline.errorHandling.maxRetries),
        ("retry_delay", .int config.pipeline.errorHandling.retryDelay.intTotalSeconds)])]),
    ("observability", .dict [
      ("metrics", .dict [
        ("enabled", .bool config.observability.metrics.enabled),
        ("port", .int config.observability.metrics.port),
        ("path", .str config.observability.metrics.path)]),
      ("logging", .dict [
        ("level", .str config.observability.logging.level),
        ("format", .str config.observability.logging.format),
        ("file", .str config.observability.logging.file)]),
      ("tracing", .dict [
        ("enabled", .bool config.observability.tracing.enabled),
        ("endpoint", .str config.observability.tracing.endpoint),
        ("sample_rate", .float config.observability.tracing.sampleRate)])])]

/-- What the file at `path` holds after `save_to_file(config, path)`, as `_load_file` reads it. -/
def saveToFile (config : SharedConfig) : Option (Except String Value) :=
  some (.ok (configToDict config))

/-! ## Merging -/

/-- The merge: a state update of the configuration whose changes survive a raise. -/
abbrev MergeM := EStateM String SharedConfig

/-- Evaluate a Python expression that may raise. -/
def raising {α : Type} : Except String α → MergeM α
  | .ok a => pure a
  | .error msg => throw msg

/-- `if key in data: merge(data[key])`, the shape of every section of `_merge_configs`. -/
def mergeSection (data : Value) (key : String) (merge : Value → MergeM Unit) : MergeM Unit := do
  if ← raising (pyContains data key) then
    merge (← raising (pyGetItem data key))

/-- The `storage` section and its `connection`. -/
def mergeStorage (storageData : Value) : MergeM Unit := do
  let d ← raising (getEntries storageData)
  modify fun c => { c with storage := { c.storage with
    type := getOr d "type" c.storage.type
    endpoint := getOr d "endpoint" c.storage.endpoint
    accessKey := getOr d "access_key" c.storage.accessKey
    secretKey := getOr d "secret_key" c.storage.secretKey
    bucket := getOr d "bucket" c.storage.bucket
    useSsl := getOr d "use_ssl" c.storage.useSsl
    region := getOr d "region" c.storage.region
    autoCreateBucket := getOr d "auto_create_bucket" c.storage.autoCreateBucket } }
  mergeSection storageData "connection" fun conn => do
    let d ← raising (getEntries conn)
    modify fun c => { c with storage := { c.storage with connection := { c.storage.connection with
      timeout := getOr d "timeout" c.storage.connection.timeout
      maxRetries := getOr d "max_retries" c.storage.connection.maxRetries } } }

/-- The `cluster` section. -/
def mergeCluster (clusterData : Value) : MergeM Unit := do
  let d ← raising (getEntries clusterData)
  modify fun c => { c with cluster := { c.cluster with
    name := getOr d "name" c.cluster.name
    domain := getOr d "domain" c.cluster.domain
    type := getOr d "type" c.cluster.type } }

/-- The `gitops` section: its `repository` and the repository's `auth`. -/
def mergeGitops (gitopsData : Value) : MergeM Unit :=
  mergeSection gitopsData "repository" fun repo => do
    let d ← raising (getEntries repo)
    modify fun c => { c with gitops.repository := { c.gitops.repository with
      url := getOr d "url" c.gitops.repository.url
      branch := getOr d "branch" c.gitops.repository.branch } }
    mergeSection repo "auth" fun auth => do
      let d ← raising (getEntries auth)
      modify fun c => { c with
        gitops.repository.auth.method := getOr d "method" c.gitops.repository.auth.method }

/-- The `backup` section: its `behavior` and its `cleanup`. -/
def mergeBackup (backupData : Value) : MergeM Unit := do
  mergeSection backupData "behavior" fun behavior => do
    let d ← raising (getEntries behavior)
    modify fun c => { c with backup.behavior := { c.backup.behavior with
      batchSize := getOr d "batch_size" c.backup.behavior.batchSize
      validateYaml := getOr d "validate_yaml" c.backup.behavior.validateYaml } }
  mergeSection backupData "cleanup" fun cleanup => do
    let d ← raising (getEntries cleanup)
    modify fun c => { c with backup.cleanup := { c.backup.cleanup with
      enabled := getOr d "enabled" c.backup.cleanup.enabled
      retentionDays := getOr d "retention_days" c.backup.cleanup.retentionDays } }

/-- The `observability` section: its `logging`. -/
def mergeObservability (obsData : Value) : MergeM Unit :=
  mergeSection obsData "logging" fun logging => do
    let d ← raising (getEntries logging)
    modify fun c => { c with observability.logging := { c.observability.logging with
      level := getOr d "level" c.observability.logging.level
      format := getOr d "format" c.observability.logging.format } }

/-- `_merge_configs(config, data)`.  Within a section every `.get` is on one object, so the first
raises exactly when they all do, before any field of the section is written. -/
def mergeConfigs (data : Value) : MergeM Unit := do
  mergeSection data "storage" mergeStorage
  mergeSection data "cluster" mergeCluster
  mergeSection data "gitops" mergeGitops
  mergeSection data "backup" mergeBackup
  mergeSection data "observability" mergeObservability

/-- The configuration a run of the merge leaves, whether it returned or raised. -/
def finalState {α : Type} : EStateM.Result String SharedConfig α → SharedConfig
  | .ok _ config => config
  | .error _ config => config

/-! ## Loading -/

/-- `_load_file(path, config)` for the content of the file at `path`.  A missing, unreadable or
empty file leaves the configuration alone; a merge that raises is reported and its changes kept. -/
def loadFile (file : Option (Except String Value)) (config : SharedConfig) : SharedConfig :=
  match file with
  | some (.ok data) => if data.truthy then finalState ((mergeConfigs data).run config) else config
  | _ => config

/-- `str(b)` for a boolean. -/
def pyStrBool (b : Bool) : String :=
  if b then "True" else "False"

/-- `text.lower()`, letter by letter (Python also lowers letters beyond ASCII, none of which lowers to
an ASCII letter but `K` and `İ`). -/
def pyLower (text : String) : String :=
  String.mk (text.data.map Char.toLower)

/-- The value of a nonempty string of decimal digits. -/
def digitsValue? (digits : List Char) : Option Nat :=
  if digits ≠ [] ∧ digits.all Char.isDigit then
    some (digits.foldl (fun n c => 10 * n + (c.toNat - '0'.toNat)) 0)
  else none

/-- `int(text)` for a text of ASCII decimal digits with an optional sign and surrounding
whitespace (the underscores Python allows between digits are not modelled). -/
def pyInt (text : String) : Option Int :=
  match text.trim.data with
  | '-' :: digits => (digitsValue? digits).map fun n => -(n : Int)
  | '+' :: digits => (digitsValue? digits).map Int.ofNat
  | digits => (digitsValue? digits).map Int.ofNat

/-- A numeric override: set only when the variable is set, nonempty and an integer. -/
def intOverride (value : Option String) (current : Int) : Int :=
  match value with
  | some text => if text = "" then current else (pyInt text).getD current
  | none => current

/-- `_apply_environment_overrides(config)` over the environment `env`. -/
def applyEnvironmentOverrides (env : String → Option String) (config : SharedConfig) :
    SharedConfig :=
  { config with
    storage := { config.storage with
      endpoint := (env "MINIO_ENDPOINT").getD config.storage.endpoint
      accessKey := (env "MINIO_ACCESS_KEY").getD config.storage.accessKey
      secretKey := (env "MINIO_SECRET_KEY").getD config.storage.secretKey
      bucket := (env "MINIO_BUCKET").getD config.storage.bucket
      useSsl := pyLower ((env "MINIO_USE_SSL").getD (pyStrBool config.storage.useSsl)) == "true" }
    cluster := { config.cluster with
      name := (env "CLUSTER_NAME").getD config.cluster.name
      domain := (env "CLUSTER_DOMAIN").getD config.cluster.domain }
    gitops.repository := { config.gitops.repository with
      url := (env "GIT_REPOSITORY").getD config.gitops.repository.url
      branch := (env "GIT_BRANCH").getD config.gitops.repository.branch
      auth := { config.gitops.repository.auth with
        method := (env "GIT_AUTH_METHOD").getD config.gitops.repository.auth.method
        pat := {
          token := (env "GIT_PAT_TOKEN").getD config.gitops.repository.auth.pat.token
          username := (env "GIT_PAT_USERNAME").getD config.gitops.repository.auth.pat.username }
        basic := {
          username := (env "GIT_USERNAME").getD config.gitops.repository.auth.basic.username
          password := (env "GIT_PASSWORD").getD config.gitops.repository.auth.basic.password }
        ssh := { config.gitops.repository.auth.ssh with
          privateKeyPath :=
            (env "GIT_SSH_KEY").getD config.gitops.repository.auth.ssh.privateKeyPath } } }
    backup := { config.backup with
      behavior := { config.backup.behavior with
        batchSize := intOverride (env "BATCH_SIZE") config.backup.behavior.batchSize }
      cleanup := { config.backup.cleanup with
        retentionDays := intOverride (env "RETENTION_DAYS") config.backup.cleanup.retentionDays } }
    observability.logging := { config.observability.logging with
      level := (env "LOG_LEVEL").getD config.observability.logging.level
      format := (env "LOG_FORMAT").getD config.observability.logging.format } }

/-- The variables `_apply_environment_overrides` reads. -/
def overrideVariables : List String :=
  ["MINIO_ENDPOINT", "MINIO_ACCESS_KEY", "MINIO_SECRET_KEY", "MINIO_BUCKET", "MINIO_USE_SSL",
    "CLUSTER_NAME", "CLUSTER_DOMAIN", "GIT_REPOSITORY", "GIT_BRANCH", "GIT_AUTH_METHOD",
    "GIT_PAT_TOKEN", "GIT_PAT_USERNAME", "GIT_USERNAME", "GIT_PASSWORD", "GIT_SSH_KEY",
    "BATCH_SIZE", "RETENTION_DAYS", "LOG_LEVEL", "LOG_FORMAT"]

/-- `_expand_environment_variables(config)`: five fields through `expandvars`, the SSH key path
through `expanduser`. -/
def expandEnvironmentVariables (env : String → Option String)
    (passwd : Option String → Option String) (config : SharedConfig) : SharedConfig :=
  { config with
    storage := { config.storage with
      endpoint := Path.expandvars env config.storage.endpoint
      bucket := Path.expandvars env config.storage.bucket }
    cluster := { config.cluster with
      name := Path.expandvars env config.cluster.name
      domain := Path.expandvars env config.cluster.domain }
    gitops.repository := { config.gitops.repository with
      url := Path.expandvars env config.gitops.repository.url
      auth.ssh.privateKeyPath :=
        Path.expanduser env passwd config.gitops.repository.auth.ssh.privateKeyPath } }

/-- `ConfigLoader(paths).load_without_validation()`, given the content of each file of `paths`. -/
def loadWithoutValidation (env : String → Option String) (passwd : Option String → Option String)
    (files : List (Option (Except String Value))) : SharedConfig :=
  expandEnvironmentVariables env passwd
    (applyEnvironmentOverrides env (files.foldl (fun config file => loadFile file config) {}))

/-- `_validate(config)`: after importing `validate_config` it converts the configuration with
`self.to_dict(config)`, a method `ConfigLoader` does not have (its conversion is
`_config_to_dict`), so the call raises before anything is validated. -/
def ConfigLoader.validate (_config : SharedConfig) : Except String Unit :=
  .error "'ConfigLoader' object has no attribute 'to_dict'"

/-- `ConfigLoader(paths).load()`: `load_without_validation()`, then `_validate`. -/
def ConfigLoader.load (env : String → Option String) (passwd : Option String → Option String)
    (files : List (Option (Except String Value))) : Except String SharedConfig := do
  let config := loadWithoutValidation env passwd files
  ConfigLoader.validate config
  pure config

/-- `load()` never returns a configuration, whatever the files and the environment, so the
constructor of `GitOpsTriggerHandler`, which calls it, always raises. -/
theorem ConfigLoader.load_error (env : String → Option String)
    (passwd : Option String → Option String) (files : List (Option (Except String Value))) :
    ConfigLoader.load env passwd files = .error "'ConfigLoader' object has no attribute 'to_dict'" := rfl

/-! ## Saving and loading back -/

/-- The fields `_merge_configs` reads, taken from `c`, and every other field from `base`: what the
merge of `c`'s saved dictionary makes of `base`. -/
def withMergedFields (base c : SharedConfig) : SharedConfig :=
  { base with
    storage := { base.storage with
      type := c.storage.type
      endpoint := c.storage.endpoint
      accessKey := c.storage.accessKey
      secretKey := c.storage.secretKey
      bucket := c.storage.bucket
      useSsl := c.storage.useSsl
      region := c.storage.region
      autoCreateBucket := c.storage.autoCreateBucket
      connection := { base.storage.connection with
        timeout := c.storage.connection.timeout
        maxRetries := c.storage.connection.maxRetries } }
    cluster := { base.cluster with
      name := c.cluster.name
      domain := c.cluster.domain
      type := c.cluster.type }
    gitops.repository := { base.gitops.repository with
      url := c.gitops.repository.url
      branch := c.gitops.repository.branch
      auth.method := c.gitops.repository.auth.method }
    backup := { base.backup with
      behavior := { base.backup.behavior with
        batchSize := c.backup.behavior.batchSize
        validateYaml := c.backup.behavior.validateYaml }
      cleanup := { base.backup.cleanup with
        enabled := c.backup.cleanup.enabled
        retentionDays := c.backup.cleanup.retentionDays } }
    observability.logging := { base.observability.logging with
      level := c.observability.logging.level
      format := c.observability.logging.format } }

/-- Merging a saved dictionary raises nothing and copies exactly the fields the merge reads. -/
theorem mergeConfigs_configToDict (base c : SharedConfig) :
    (mergeConfigs (configToDict c)).run base = .ok () (withMergedFields base c) :=
  rfl

theorem loadFile_saveToFile (c base : SharedConfig) :
    loadFile (saveToFile c) base = withMergedFields base c := by
  simp only [loadFile, saveToFile, mergeConfigs_configToDict]
  rfl

/-- With none of its variables set, `_apply_environment_overrides` changes nothing. -/
theorem applyEnvironmentOverrides_of_unset {env : String → Option String}
    (h : ∀ name ∈ overrideVariables, env name = none) (config : SharedConfig) :
    applyEnvironmentOverrides env config = config := by
  simp only [overrideVariables, List.mem_cons, List.mem_singleton, List.not_mem_nil, or_false,
    forall_eq_or_imp, forall_eq] at h
  have hssl : ∀ b : Bool, (pyLower (pyStrBool b) == "true") = b := by decide
  simp [applyEnvironmentOverrides, h, hssl, intOverride]

/-- The fields `_expand_environment_variables` passes through `expandvars`. -/
def expandedFields (config : SharedConfig) : List String :=
  [config.storage.endpoint, config.storage.bucket, config.cluster.name, config.cluster.domain,
    config.gitops.repository.url]

/-- Without a `$` in the fields it passes through `expandvars`, `_expand_environment_variables`
only expands the SSH key path. -/
theorem expandEnvironmentVariables_of_no_dollar (env : String → Option String)
    (passwd : Option String → Option String) {config : SharedConfig}
    (h : ∀ s ∈ expandedFields config, '$' ∉ s.data) :
    expandEnvironmentVariables env passwd config =
      { config with
        gitops.repository.auth.ssh.privateKeyPath :=
          Path.expanduser env passwd config.gitops.repository.auth.ssh.privateKeyPath } := by
  simp only [expandedFields, List.mem_cons, List.mem_singleton, List.not_mem_nil, or_false,
    forall_eq_or_imp, forall_eq] at h
  simp [expandEnvironmentVariables, h]

/-- `_merge_configs(SharedConfig(), _config_to_dict(c))`. -/
def reloadSaved (c : SharedConfig) : SharedConfig :=
  finalState ((mergeConfigs (configToDict c)).run {})

/-- The configuration the loader's save test writes. -/
def savedConfig : SharedConfig :=
  { schemaVersion := "1.0.0"
    description := "Test configuration for saving"
    storage := { endpoint := "localhost:9000", accessKey := "testkey", secretKey := "testsecret",
                 bucket := "test-bucket" }
    cluster := { name := "test-cluster" } }

/-- The save test's configuration does not come back: its description is replaced by the default.
The three fields the test compares do come back. -/
theorem savedConfig_reload_differs :
    reloadSaved savedConfig ≠ savedConfig ∧
      (reloadSaved savedConfig).description = ({} : SharedConfig).description ∧
      (reloadSaved savedConfig).schemaVersion = savedConfig.schemaVersion ∧
      (reloadSaved savedConfig).storage.endpoint = savedConfig.storage.endpoint ∧
      (reloadSaved savedConfig).cluster.name = savedConfig.cluster.name := by
  decide

/-- **Saving and loading back.**  Merging the saved dictionary of `c` into `SharedConfig()` raises
nothing and yields `c`'s values in the fields the merge reads and the defaults in all others.  With
no override variable set and no `$` in the fields `expandvars` sees, `load_without_validation` of
the saved file yields that configuration with the default SSH key path passed through
`expanduser`. -/
theorem saved_config_reloads_merged_fields (c : SharedConfig) :
    (mergeConfigs (configToDict c)).run {} = .ok () (withMergedFields {} c) ∧
      ∀ env passwd, (∀ name ∈ overrideVariables, env name = none) →
        (∀ s ∈ expandedFields c, '$' ∉ s.data) →
        loadWithoutValidation env passwd [saveToFile c] =
          { (withMergedFields {} c) with
            gitops.repository.auth.ssh.privateKeyPath := Path.expanduser env passwd "~/.ssh/id_rsa" } := by
  refine ⟨mergeConfigs_configToDict {} c, fun env passwd henv hdollar => ?_⟩
  rw [loadWithoutValidation, List.foldl_cons, List.foldl_nil, loadFile_saveToFile,
    applyEnvironmentOverrides_of_unset henv,
    @expandEnvironmentVariables_of_no_dollar env passwd (withMergedFields {} c) hdollar]
  rfl

/-- The save test's configuration, loaded back with no variable set and no password database. -/
theorem saved_config_reloads_merged_fields_savedConfig :
    (∀ name ∈ overrideVariables, (fun _ => none : String → Option String) name = none) ∧
      (∀ s ∈ expandedFields savedConfig, '$' ∉ s.data) ∧
      loadWithoutValidation (fun _ => none) (fun _ => none) [saveToFile savedConfig] =
        { (withMergedFields {} savedConfig) with
          gitops.repository.auth.ssh.privateKeyPath :=
            Path.expanduser (fun _ => none) (fun _ => none) "~/.ssh/id_rsa" } :=
  have henv : ∀ name ∈ overrideVariables, (fun _ => none : String → Option String) name = none :=
    fun _ _ => rfl
  have hdollar : ∀ s ∈ expandedFields savedConfig, '$' ∉ s.data := by decide
  ⟨henv, hdollar, (saved_config_reloads_merged_fields savedConfig).2 _ _ henv hdollar⟩

end Config
end Tkkube
