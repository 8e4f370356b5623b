import Tkkube.Restore.Types
import Mathlib.Algebra.Ring.Int.Defs
import Mathlib.Data.List.Infix

/-!
# The orchestrator's pure helpers

The `async` helpers of `GitOpsRestoreOrchestrator` that await nothing external: the restore plan,
the manifest transformation and its validation, the Argo CD `Application` of a restore and the
verification report.  `_apply_gitops_transformations` copies the resource, makes sure `metadata`,
`metadata.labels` and `metadata.annotations` exist, adds the provenance labels and annotations and
remaps the namespace; on a resource of another shape the interpreter raises, and the model raises
with the interpreter's text.
-/

namespace Tkkube
namespace Restore

/-- The ISO rendering of a clock reading, as `datetime.isoformat` would give it. -/
def isoformat (t : Nat) : String := toString t

/-- The plan `_create_restore_plan` returns. -/
structure RestorePlan where
  restoreId : String
  totalResources : Int
  totalSteps : Nat
  phases : List String
  estimatedDurationMinutes : Nat
  requiresClusterBootstrap : Bool
  deriving Repr

/-- `_create_restore_plan`: the resource total is the sum of the backup's counts, the step count
is always seven, and a cluster rebuild takes two hours instead of thirty minutes. -/
def createRestorePlan (request : RestoreRequest) (metadata : BackupMetadata) : RestorePlan where
  restoreId := request.restoreId
  totalResources := (metadata.resources.map (·.2)).sum
  totalSteps := 7
  phases := ["planning", "validation", "preparation", "gitops_sync", "verification", "cleanup",
    "completion"]
  estimatedDurationMinutes := if request.drScenario = .clusterRebuild then 120 else 30
  requiresClusterBootstrap := request.drScenario = .clusterRebuild

/-- The labels `_apply_gitops_transformations` adds. -/
def provenanceLabels (request : RestoreRequest) : List (String × Value) :=
  [("restore.gitops.io/restore-id", .str request.restoreId),
   ("restore.gitops.io/source-backup", .str request.backupId),
   ("restore.gitops.io/dr-scenario", .str request.drScenario.value)]

/-- The annotations `_apply_gitops_transformations` adds at clock reading `now`. -/
def provenanceAnnotations (request : RestoreRequest) (now : Nat) : List (String × Value) :=
  [("restore.gitops.io/restored-at", .str (isoformat now)),
   ("restore.gitops.io/source-cluster", .str request.sourceCluster),
   ("restore.gitops.io/target-cluster", .str request.targetCluster)]

/-- `if key not in m: m[key] = {}` on the value `m` found under `metadata`. -/
def ensureKey (m : Value) (key : String) : Except String Value :=
  match m with
  | .dict entries =>
      .ok (if Dict.contains entries key then .dict entries else .dict (Dict.setKey key (.dict []) entries))
  | .list _ => .error "list indices must be integers or slices, not str"
  | .str s =>
      .error (if key.data <:+: s.data then "string indices must be integers, not 'str'"
        else "'str' object does not support item assignment")
  | other => .error s!"argument of type '{other.typeName}' is not iterable"

/-- `m[key].update(entries)` on a dictionary `m` that holds `key`; the result is `m`'s entries. -/
def updateItem (m : Value) (key : String) (entries : List (String × Value)) :
    Except String (List (String × Value)) :=
  match m with
  | .dict items =>
      match items.lookup key with
      | some (.dict inner) => .ok (Dict.setKey key (.dict (Dict.update inner entries)) items)
      | some other => .error s!"'{other.typeName}' object has no attribute 'update'"
      | none => .error s!"'{key}'"
  | .str _ => .error "string indices must be integers, not 'str'"
  | .list _ => .error "list indices must be integers or slices, not str"
  | other => .error s!"'{other.typeName}' object is not subscriptable"

/-- The namespace mapping: a single target namespace replaces a present, non-empty namespace. -/
def mapNamespace (request : RestoreRequest) (metadata : List (String × Value)) :
    List (String × Value) :=
  match request.targetNamespaces with
  | some [ns] =>
      if ((metadata.lookup "namespace").getD .none).truthy then
        Dict.setKey "namespace" (.str ns) metadata
      else metadata
  | _ => metadata

/-- `_apply_gitops_transformations` at clock reading `now`.  A dictionary comes back as the
dictionary of the manifest; any other resource makes the interpreter raise. -/
def applyGitopsTransformations (request : RestoreRequest) (now : Nat) :
    Value → Except String (List (String × Value))
  | .dict entries => do
      let m ← ensureKey ((entries.lookup "metadata").getD (.dict [])) "labels"
      let m ← ensureKey m "annotations"
      let m ← updateItem m "labels" (provenanceLabels request)
      let m ← updateItem (.dict m) "annotations" (provenanceAnnotations request now)
      pure (Dict.setKey "metadata" (.dict (mapNamespace request m)) entries)
  | .list _ => throw "list indices must be integers or slices, not str"
  | other => throw s!"'{other.typeName}' object has no attribute 'copy'"

/-- `_transform_to_gitops`: every resource transformed, in order. -/
def transformToGitops (request : RestoreRequest) (now : Nat) (resources : List Value) :
    Except String (List (List (String × Value))) :=
  resources.mapM (applyGitopsTransformations request now)

/-- `_generate_cluster_config`: the Argo CD `Application` that points at the restore's path. -/
def generateClusterConfig (settings : GitopsSettings) (request : RestoreRequest) :
    List (String × Value) :=
  [("apiVersion", .str "argoproj.io/v1alpha1"),
   ("kind", .str "Application"),
   ("metadata", .dict [
      ("name", .str s!"restore-{request.restoreId}"),
      ("namespace", .str "argocd"),
      ("labels", .dict [("restore.gitops.io/restore-id", .str request.restoreId)])]),
   ("spec", .dict [
      ("project", .str "disaster-recovery"),
      ("source", .dict [
        ("repoURL", match settings.repoUrl with | some url => .str url | none => .none),
        ("targetRevision", .str settings.branch),
        ("path", .str s!"{settings.path}/{request.targetCluster}/restore-{request.restoreId}")]),
      ("destination", .dict [
        ("server", .str "https://kubernetes.default.svc"),
        ("namespace", .str "default")]),
      ("syncPolicy", .dict [
        ("automated", .dict [("prune", .bool true), ("selfHeal", .bool true)]),
        ("syncOptions", .list [.str "CreateNamespace=true"])])])]

/-- `_validate_gitops_manifests`: each manifest must hold `apiVersion`, `kind` and `metadata`. -/
def validateGitopsManifests : List (List (String × Value)) → Except String Unit
  | [] => .ok ()
  | manifest :: rest =>
      if !Dict.contains manifest "apiVersion" then
        .error s!"Manifest missing apiVersion: {Value.repr (.dict manifest)}"
      else if !Dict.contains manifest "kind" then
        .error s!"Manifest missing kind: {Value.repr (.dict manifest)}"
      else if !Dict.contains manifest "metadata" then
        .error s!"Manifest missing metadata: {Value.repr (.dict manifest)}"
      else validateGitopsManifests rest

/-- `_generate_verification_report`, whose result `_phase_verification` drops. -/
def generateVerificationReport (request : RestoreRequest) (now : Nat)
    (healthReport : List (String × Value)) : List (String × Value) :=
  [("restore_id", .str request.restoreId),
   ("verification_time", .str (isoformat now)),
   ("overall_status", .str "Success"),
   ("health_report", .dict healthReport),
   ("recommendations", .list [.str "Monitor application performance for 24 hours",
      .str "Verify data integrity", .str "Update monitoring dashboards"])]

end Restore
end Tkkube
