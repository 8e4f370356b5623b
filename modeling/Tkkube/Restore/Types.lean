import Tkkube.Value

/-!
# The restore orchestrator's data model

`gitops_restore.py`'s enums and dataclasses, and the interface of the collaborators the
orchestrator awaits.  Every external call of a restore task (a backup-store read, a validation
check, a git operation, a controller call, a wait) is a suspension point whose outcome the
environment chooses: `ExtCall` names the call as it is made and `Reply` is its outcome.

Timestamps are a clock reading, a natural number; `percent_complete` is an exact rational, which
keeps the order and the bounds of the code's float values.
-/

namespace Tkkube
namespace Restore

/-- `RestoreMode`. -/
inductive RestoreMode where
  | fullCluster
  | selective
  | «namespace»
  | application
  | configuration
  deriving DecidableEq, Repr, Inhabited

/-- `RestorePhase`, in the order the orchestrator runs the phases. -/
inductive RestorePhase where
  | planning
  | validation
  | preparation
  | gitopsSync
  | verification
  | cleanup
  | completed
  | failed
  deriving DecidableEq, Repr, Inhabited

/-- `DRScenario`. -/
inductive DRScenario where
  | clusterRebuild
  | namespaceRecovery
  | dataCorruption
  | configurationRollback
  | crossClusterMigration
  deriving DecidableEq, Repr, Inhabited

/-- `DRScenario.value`. -/
def DRScenario.value : DRScenario → String
  | .clusterRebuild => "cluster_rebuild"
  | .namespaceRecovery => "namespace_recovery"
  | .dataCorruption => "data_corruption"
  | .configurationRollback => "configuration_rollback"
  | .crossClusterMigration => "cross_cluster_migration"

/-- `RestoreRequest`.  `resource_filters`, `gitops_config`, `security_context` and `metadata` are
read by no step of the orchestrator (the authorization check that receives the whole request is an
external call) and are left out. -/
structure RestoreRequest where
  restoreId : String
  backupId : String
  sourceCluster : String
  targetCluster : String
  restoreMode : RestoreMode
  drScenario : DRScenario
  targetNamespaces : Option (List String) := none
  validationConfig : Option (List (String × Value)) := none
  dryRun : Bool := false
  deriving Repr, Inhabited

/-- `RestoreProgress`.  `estimated_completion` is never set and is left out. -/
structure RestoreProgress where
  phase : RestorePhase
  percentComplete : ℚ
  currentStep : String
  stepsCompleted : Nat
  totalSteps : Nat
  startTime : Nat
  resourcesProcessed : Nat := 0
  resourcesTotal : Int := 0
  errors : List String := []
  warnings : List String := []
  deriving Inhabited

/-- `RestoreResult`. -/
structure RestoreResult where
  restoreId : String
  success : Bool
  phase : RestorePhase
  startTime : Nat
  endTime : Nat
  duration : Nat
  resourcesRestored : Nat
  resourcesFailed : Nat
  gitCommits : List String
  validationReport : List (String × Value)
  errorSummary : Option String := none
  recommendations : Option (List String) := none

/-- What `_load_backup_metadata` returns, as far as the orchestrator reads it: the resource counts
under `resources`. -/
structure BackupMetadata where
  resources : List (String × Int)
  deriving Repr

/-- The GitOps settings `__init__` reads from `self.config`, with its defaults. -/
structure GitopsSettings where
  repoUrl : Option String := none
  branch : String := "main"
  path : String := "clusters"
  autoSync : Bool := true
  deriving Repr

/-- An external call made by a restore task, with the arguments the collaborator receives. -/
inductive ExtCall where
  | loadBackupMetadata (backupId : String)
  | validateClusterAccess (clusterName : String)
  | validateGitopsAccess
  | validateRestorePermissions (restoreId : String)
  | checkRestoreConflicts (restoreId : String)
  | cloneGitopsRepo (url : Option String) (branch : String) (dest : String)
  | loadBackupResources (backupId : String)
  | commitGitopsManifests (files : List String) (message : String)
  | pushGitopsRepo
  | triggerGitopsSync (clusterName : String)
  | pollGitopsSync
  | waitForResourcesReady (restoreId : String)
  | validateResourceHealth (restoreId : String)
  | runFunctionalTests (restoreId : String)
  | cleanupTemporaryNamespaces (restoreId : String)
  | sendCompletionNotification (restoreId : String)
  deriving DecidableEq, Repr

/-- The calls Planning and Validation make: the backup-metadata read and the four checks. -/
def ExtCall.isPrecheck : ExtCall → Bool
  | .loadBackupMetadata _ | .validateClusterAccess _ | .validateGitopsAccess
  | .validateRestorePermissions _ | .checkRestoreConflicts _ => true
  | _ => false

/-- The calls that change the GitOps repository, the GitOps controller or the target cluster, or
materialise a working tree: clone, commit, push, sync trigger and namespace cleanup. -/
def ExtCall.mutating : ExtCall → Bool
  | .cloneGitopsRepo .. | .commitGitopsManifests .. | .pushGitopsRepo | .triggerGitopsSync _
  | .cleanupTemporaryNamespaces _ => true
  | _ => false

theorem ExtCall.not_mutating_of_isPrecheck {c : ExtCall} (h : c.isPrecheck = true) :
    c.mutating = false := by
  cases c <;> simp_all [isPrecheck, mutating]

/-- The outcome of an external call: a returned value, or an exception with its message. -/
inductive Reply where
  | done
  | flag (b : Bool)
  | metadata (m : Option BackupMetadata)
  | resources (rs : List Value)
  | conflicts (cs : List String)
  | commit (hexsha : String)
  | health (report : List (String × Value))
  | raise (msg : String)
  deriving Repr

end Restore
end Tkkube
