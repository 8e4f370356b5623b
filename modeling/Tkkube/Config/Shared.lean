import Mathlib.Data.Rat.Defs

/-!
# The shared configuration

The dataclasses of `shared/config/loader.py`, one structure each, with the source's defaults, so
that `{}` is the configuration `SharedConfig()` builds.  Field names are the source's in camel
case; `include`, `namespace` and `structure` are written with guillemets.

Python does not check a dataclass's field types; the model takes each field at its annotated type.
A `timedelta` is kept at its resolution, in whole microseconds, and a `float` as a rational.
-/

namespace Tkkube
namespace Config

/-- A `datetime.timedelta`, in microseconds. -/
structure Timedelta where
  microseconds : Int
  deriving DecidableEq, Repr

namespace Timedelta

/-- `timedelta(seconds=n)`. -/
def ofSeconds (n : Int) : Timedelta := ⟨n * 1000000⟩

/-- `int(td.total_seconds())`: the seconds, truncated towards zero. -/
def intTotalSeconds (td : Timedelta) : Int := td.microseconds.tdiv 1000000

end Timedelta

/-- Connection configuration for storage backends. -/
structure ConnectionConfig where
  timeout : Int := 30
  maxRetries : Int := 3
  retryDelay : Timedelta := .ofSeconds 5
  deriving DecidableEq, Repr

/-- Storage backend configuration. -/
structure StorageConfig where
  type : String := "minio"
  endpoint : String := ""
  accessKey : String := ""
  secretKey : String := ""
  bucket : String := "cluster-backups"
  useSsl : Bool := true
  region : String := "us-east-1"
  autoCreateBucket : Bool := false
  fallbackBuckets : List String := []
  connection : ConnectionConfig := {}
  deriving DecidableEq, Repr

/-- OpenShift-specific configuration. -/
structure OpenShiftConfig where
  mode : String := "auto-detect"
  includeResources : Bool := true
  deriving DecidableEq, Repr

/-- Cluster configuration. -/
structure ClusterConfig where
  name : String := ""
  domain : String := "cluster.local"
  type : String := "kubernetes"
  openshift : OpenShiftConfig := {}
  deriving DecidableEq, Repr

/-- Resource filtering configuration. -/
structure ResourceFilter where
  «include» : List String := []
  exclude : List String := []
  deriving DecidableEq, Repr

/-- Namespace filtering configuration. -/
structure NamespaceFilter where
  «include» : List String := []
  exclude : List String := []
  deriving DecidableEq, Repr

/-- Backup filtering configuration. -/
structure FilteringConfig where
  mode : String := "whitelist"
  resources : ResourceFilter := {}
  namespaces : NamespaceFilter := {}
  labelSelector : String := ""
  annotationSelector : String := ""
  deriving DecidableEq, Repr

/-- Backup behavior configuration. -/
structure BehaviorConfig where
  batchSize : Int := 50
  validateYaml : Bool := true
  skipInvalidResources : Bool := true
  includeManagedFields : Bool := false
  includeStatus : Bool := false
  maxResourceSize : String := "10Mi"
  followOwnerReferences : Bool := false
  deriving DecidableEq, Repr

/-- Cleanup policy configuration. -/
structure CleanupConfig where
  enabled : Bool := true
  retentionDays : Int := 7
  cleanupOnStartup : Bool := false
  deriving DecidableEq, Repr

/-- Backup configuration. -/
structure BackupConfig where
  filtering : FilteringConfig := {}
  behavior : BehaviorConfig := {}
  cleanup : CleanupConfig := {}
  deriving DecidableEq, Repr

/-- SSH authentication configuration. -/
structure SSHAuthConfig where
  privateKeyPath : String := "~/.ssh/id_rsa"
  passphrase : String := ""
  deriving DecidableEq, Repr

/-- Personal Access Token authentication configuration. -/
structure PATAuthConfig where
  token : String := ""
  username : String := ""
  deriving DecidableEq, Repr

/-- Basic authentication configuration. -/
structure BasicAuthConfig where
  username : String := ""
  password : String := ""
  deriving DecidableEq, Repr

/-- Git authentication configuration. -/
structure AuthConfig where
  method : String := "ssh"
  ssh : SSHAuthConfig := {}
  pat : PATAuthConfig := {}
  basic : BasicAuthConfig := {}
  deriving DecidableEq, Repr

/-- Git repository configuration. -/
structure RepositoryConfig where
  url : String := ""
  branch : String := "main"
  auth : AuthConfig := {}
  deriving DecidableEq, Repr

/-- Environment-specific configuration. -/
structure EnvironmentConfig where
  name : String := ""
  clusterUrl : String := ""
  autoSync : Bool := true
  replicas : Int := 1
  deriving DecidableEq, Repr

/-- ArgoCD sync policy configuration. -/
structure SyncPolicyConfig where
  automated : Bool := false
  prune : Bool := false
  selfHeal : Bool := false
  deriving DecidableEq, Repr

/-- ArgoCD configuration. -/
structure ArgoCDConfig where
  enabled : Bool := true
  «namespace» : String := "argocd"
  project : String := "default"
  syncPolicy : SyncPolicyConfig := {}
  deriving DecidableEq, Repr

/-- Kustomize configuration. -/
structure KustomizeConfig where
  enabled : Bool := true
  strategicMerge : Bool := true
  deriving DecidableEq, Repr

/-- GitOps structure configuration. -/
structure StructureConfig where
  baseDir : String := "namespaces"
  environments : List EnvironmentConfig := []
  argocd : ArgoCDConfig := {}
  kustomize : KustomizeConfig := {}
  deriving DecidableEq, Repr

/-- GitOps configuration. -/
structure GitOpsConfig where
  repository : RepositoryConfig := {}
  «structure» : StructureConfig := {}
  deriving DecidableEq, Repr

/-- File-based trigger configuration. -/
structure FileTriggerConfig where
  enabled : Bool := true
  directory : String := "/tmp/backup-gitops-triggers"
  cleanupAfterProcessing : Bool := true
  deriving DecidableEq, Repr

/-- Process-based trigger configuration. -/
structure ProcessTriggerConfig where
  enabled : Bool := true
  gitopsBinaryPath : String := ""
  additionalArgs : String := ""
  deriving DecidableEq, Repr

/-- Webhook authentication configuration. -/
structure WebhookAuthConfig where
  enabled : Bool := false
  token : String := ""
  headerName : String := "Authorization"
  deriving DecidableEq, Repr

/-- Webhook-based trigger configuration. -/
structure WebhookTriggerConfig where
  enabled : Bool := false
  serverHost : String := "0.0.0.0"
  serverPort : Int := 8080
  endpointPath : String := "/webhook/backup-complete"
  authentication : WebhookAuthConfig := {}
  deriving DecidableEq, Repr

/-- Pipeline automation configuration. -/
structure AutomationConfig where
  enabled : Bool := true
  triggerOnBackupComplete : Bool := true
  waitForBackup : Bool := true
  maxWaitTime : Int := 300
  triggerMethods : List String := ["file", "process", "webhook"]
  fileTrigger : FileTriggerConfig := {}
  processTrigger : ProcessTriggerConfig := {}
  webhookTrigger : WebhookTriggerConfig := {}
  deriving DecidableEq, Repr

/-- Webhook notification configuration. -/
structure WebhookConfig where
  url : String := ""
  onSuccess : Bool := true
  onFailure : Bool := true
  deriving DecidableEq, Repr

/-- Slack notification configuration. -/
structure SlackConfig where
  webhookUrl : String := ""
  channel : String := "#backup-notifications"
  deriving DecidableEq, Repr

/-- Notifications configuration. -/
structure NotificationsConfig where
  enabled : Bool := false
  webhook : WebhookConfig := {}
  slack : SlackConfig := {}
  deriving DecidableEq, Repr

/-- Error handling configuration. -/
structure ErrorHandlingConfig where
  continueOnError : Bool := false
  maxRetries : Int := 3
  retryDelay : Timedelta := .ofSeconds 30
  deriving DecidableEq, Repr

/-- Pipeline configuration. -/
structure PipelineConfig where
  mode : String := "sequential"
  automation : AutomationConfig := {}
  notifications : NotificationsConfig := {}
  errorHandling : ErrorHandlingConfig := {}
  deriving DecidableEq, Repr

/-- Metrics configuration. -/
structure MetricsConfig where
  enabled : Bool := true
  port : Int := 8080
  path : String := "/metrics"
  deriving DecidableEq, Repr

/-- Logging configuration. -/
structure LoggingConfig where
  level : String := "info"
  format : String := "json"
  file : String := ""
  deriving DecidableEq, Repr

/-- Tracing configuration. -/
structure TracingConfig where
  enabled : Bool := false
  endpoint : String := ""
  sampleRate : ℚ := 1 / 10
  deriving DecidableEq, Repr

/-- Observability configuration. -/
structure ObservabilityConfig where
  metrics : MetricsConfig := {}
  logging : LoggingConfig := {}
  tracing : TracingConfig := {}
  deriving DecidableEq, Repr

/-- The complete shared configuration; `{}` is `SharedConfig()`. -/
structure SharedConfig where
  schemaVersion : String := "1.0.0"
  description : String :=
    "Unified configuration for Kubernetes backup and GitOps generation pipeline"
  storage : StorageConfig := {}
  cluster : ClusterConfig := {}
  backup : BackupConfig := {}
  gitops : GitOpsConfig := {}
  pipeline : PipelineConfig := {}
  observability : ObservabilityConfig := {}
  deriving DecidableEq, Repr

end Config
end Tkkube
