import Tkkube.Restore.Transform
import Tkkube.Path

/-!
# The phases of a restore task

`_execute_restore` and its six phase methods, cut at their suspension points.  A task suspended at
`pc` awaits one external call; `resumeAt pc reply` finishes that call with the outcome `reply` and
runs the code that follows, up to the next external call (`Next.await`) or to the end of the last
phase (`Next.returned`).  An exception leaves the changes made before it in place, as Python's
in-place mutation does; `TaskM` is that state-and-exception monad, with a `@[simp]` lemma for each
of its operations so that a segment's run unfolds by `simp`.

A segment touches only its `Frame`: the progress object the task holds, the orchestrator's shared
scratch directory, the task's own record of external calls, and the task's local variables.  An
outcome of the wrong kind for the awaited call is not delivered: the task stays where it is.

Two of the calls meet the scratch directory.  `git clone` into `work_dir/gitops_repo` fails while a
clone is there, and opening the repository to commit fails once the clone is gone.  Conflict
detection is the stub's `if not request.dry_run` branch, so a dry run reports no conflicts.
-/

namespace Tkkube
namespace Restore

/-- The number of one-second polls `_monitor_gitops_sync` makes. -/
def syncDuration : Nat := 60

/-- The external call a suspended restore task awaits. -/
inductive Pc where
  | loadBackupMetadata
  | validateClusterAccess
  | validateGitopsAccess
  | validateRestorePermissions
  | checkRestoreConflicts
  | cloneGitopsRepo
  | loadBackupResources
  | commitGitopsManifests
  | pushGitopsRepo
  | triggerGitopsSync
  | monitorGitopsSync (i : Fin syncDuration)
  | waitForResourcesReady
  | validateResourceHealth
  | runFunctionalTests
  | cleanupTemporaryNamespaces
  | sendCompletionNotification
  deriving DecidableEq, Repr

/-- The orchestrator's `work_dir`, shared by all of its restores. -/
structure Workdir where
  present : Bool
  generated : List String
  cloned : Bool
  deriving DecidableEq, Repr

/-- `work_dir` as `__init__` leaves it: `templates` and an empty `generated` directory. -/
def Workdir.initial : Workdir := ⟨true, [], false⟩

/-- What a segment of a restore task reads and writes. -/
structure Frame where
  progress : RestoreProgress
  workdir : Workdir
  calls : List ExtCall
  healthReport : List (String × Value)

/-- What a segment reads and never writes: the orchestrator's settings and the path of its
`work_dir`, the clock, and the request. -/
structure Ctx where
  settings : GitopsSettings
  workDir : String
  now : Nat
  request : RestoreRequest

/-- Where a segment stops. -/
inductive Next where
  | await (pc : Pc)
  | returned
  deriving DecidableEq, Repr

/-- The code of a restore task between two suspension points: it runs against a frame and
returns or raises, and a raise keeps the changes made before it. -/
structure TaskM (α : Type) where
  run : Frame → Except String α × Frame

namespace TaskM

/-- Sequencing, with an exception skipping the rest. -/
def bind {α β : Type} (m : TaskM α) (k : α → TaskM β) : TaskM β :=
  ⟨fun f => match m.run f with
    | (.ok a, f') => (k a).run f'
    | (.error e, f') => (.error e, f')⟩

instance : Monad TaskM where
  pure a := ⟨fun f => (.ok a, f)⟩
  bind := bind

instance : MonadExceptOf String TaskM where
  throw e := ⟨fun f => (.error e, f)⟩
  tryCatch m h := ⟨fun f => match m.run f with
    | (.error e, f') => (h e).run f'
    | r => r⟩

/-- The frame. -/
def get : TaskM Frame := ⟨fun f => (.ok f, f)⟩

/-- Change the frame. -/
def modify (g : Frame → Frame) : TaskM Unit := ⟨fun f => (.ok (), g f)⟩

@[simp] theorem run_pure {α : Type} (a : α) (f : Frame) : (pure a : TaskM α).run f = (.ok a, f) := rfl

@[simp] theorem run_bind {α β : Type} (m : TaskM α) (k : α → TaskM β) (f : Frame) :
    (m >>= k).run f = match m.run f with
      | (.ok a, f') => (k a).run f'
      | (.error e, f') => (.error e, f') := rfl

@[simp] theorem run_map {α β : Type} (g : α → β) (m : TaskM α) (f : Frame) :
    (g <$> m).run f = match m.run f with
      | (.ok a, f') => (.ok (g a), f')
      | (.error e, f') => (.error e, f') := rfl

@[simp] theorem run_seqRight {α β : Type} (m : TaskM α) (m' : TaskM β) (f : Frame) :
    (m *> m').run f = match m.run f with
      | (.ok _, f') => m'.run f'
      | (.error e, f') => (.error e, f') := rfl

@[simp] theorem run_throw {α : Type} (e : String) (f : Frame) :
    (throw e : TaskM α).run f = (.error e, f) := rfl

@[simp] theorem run_get (f : Frame) : get.run f = (.ok f, f) := rfl

@[simp] theorem run_modify (g : Frame → Frame) (f : Frame) : (modify g).run f = (.ok (), g f) := rfl

@[simp] theorem run_ite {α : Type} (c : Prop) [Decidable c] (m m' : TaskM α) (f : Frame) :
    (if c then m else m').run f = if c then m.run f else m'.run f := by
  split <;> rfl

/-- A branch followed by more code: the rest is pushed into both arms, so that the branch stays
outside any `match` on a result. -/
@[simp 1100] theorem run_bind_ite {α β : Type} (c : Prop) [Decidable c] (m m' : TaskM α)
    (k : α → TaskM β) (f : Frame) :
    ((if c then m else m') >>= k).run f = if c then (m >>= k).run f else (m' >>= k).run f := by
  split <;> rfl

@[simp] theorem run_dite {α : Type} (c : Prop) [Decidable c] (m : c → TaskM α) (m' : ¬c → TaskM α)
    (f : Frame) : (if h : c then m h else m' h).run f = if h : c then (m h).run f else (m' h).run f := by
  split <;> rfl

end TaskM

/-- Record that the task made the external call `c`. -/
def perform (c : ExtCall) : TaskM Unit :=
  TaskM.modify fun f => { f with calls := f.calls ++ [c] }

/-- Change the progress object the task holds. -/
def setProgress (g : RestoreProgress → RestoreProgress) : TaskM Unit :=
  TaskM.modify fun f => { f with progress := g f.progress }

/-- The two assignments that open every phase method. -/
def enterPhase (phase : RestorePhase) (step : String) : TaskM Unit :=
  setProgress fun p => { p with phase := phase, currentStep := step }

/-- `(steps_completed / total_steps) * 100`. -/
def percentOf (steps total : Nat) : ℚ := (steps : ℚ) / total * 100

/-- `progress.steps_completed = n` and the recomputed `percent_complete` that close every phase. -/
def completeSteps (n : Nat) : TaskM Unit :=
  setProgress fun p => { p with stepsCompleted := n, percentComplete := percentOf n p.totalSteps }

/-- Raise `msg` unless `ok`. -/
def require (ok : Bool) (msg : String) : TaskM Unit :=
  if ok then pure () else throw msg

@[simp 1100] theorem run_bind_require {β : Type} (ok : Bool) (msg : String) (k : Unit → TaskM β)
    (f : Frame) : (require ok msg >>= k).run f = if ok then (k ()).run f else (.error msg, f) := by
  cases ok <;> rfl

/-- Run a pure helper that may raise. -/
def liftExcept {α : Type} : Except String α → TaskM α
  | .ok a => pure a
  | .error msg => throw msg

@[simp] theorem run_liftExcept {α : Type} (e : Except String α) (f : Frame) :
    (liftExcept e).run f = (e, f) := by
  cases e <;> rfl

@[simp 1100] theorem run_bind_liftExcept {α β : Type} (e : Except String α) (k : α → TaskM β)
    (f : Frame) : (liftExcept e >>= k).run f = match e with
      | .ok a => (k a).run f
      | .error msg => (.error msg, f) := by
  cases e <;> rfl

/-- `work_dir / 'gitops_repo'`. -/
def repoPath (ctx : Ctx) : Path :=
  (Path.parse ctx.workDir).div "gitops_repo"

/-- `repo_path / gitops_path / target_cluster / f"restore-{restore_id}"`. -/
def restorePath (ctx : Ctx) : Path :=
  (((repoPath ctx).div ctx.settings.path).div ctx.request.targetCluster).div
    ("restore-" ++ ctx.request.restoreId)

/-- The files `_commit_gitops_manifests` copies: `generated_dir.glob('*.yaml')`, placed under the
restore path. -/
def manifestFiles (ctx : Ctx) (workdir : Workdir) : List String :=
  (workdir.generated.filter (·.endsWith ".yaml")).map fun name => ((restorePath ctx).div name).render

/-- The commit message of a restore. -/
def commitMessage (request : RestoreRequest) : String :=
  "Restore operation " ++ request.restoreId ++ " - " ++ request.drScenario.value

/-! ## The phases, segment by segment -/

section Segments

variable (ctx : Ctx)

/-- The external call awaited at `pc`, as the task makes it while the scratch directory is `wd`. -/
def awaitedCall (wd : Workdir) : Pc → ExtCall
  | .loadBackupMetadata => .loadBackupMetadata ctx.request.backupId
  | .validateClusterAccess => .validateClusterAccess ctx.request.targetCluster
  | .validateGitopsAccess => .validateGitopsAccess
  | .validateRestorePermissions => .validateRestorePermissions ctx.request.restoreId
  | .checkRestoreConflicts => .checkRestoreConflicts ctx.request.restoreId
  | .cloneGitopsRepo => .cloneGitopsRepo ctx.settings.repoUrl ctx.settings.branch (repoPath ctx).render
  | .loadBackupResources => .loadBackupResources ctx.request.backupId
  | .commitGitopsManifests => .commitGitopsManifests (manifestFiles ctx wd) (commitMessage ctx.request)
  | .pushGitopsRepo => .pushGitopsRepo
  | .triggerGitopsSync => .triggerGitopsSync ctx.request.targetCluster
  | .monitorGitopsSync _ => .pollGitopsSync
  | .waitForResourcesReady => .waitForResourcesReady ctx.request.restoreId
  | .validateResourceHealth => .validateResourceHealth ctx.request.restoreId
  | .runFunctionalTests => .runFunctionalTests ctx.request.restoreId
  | .cleanupTemporaryNamespaces => .cleanupTemporaryNamespaces ctx.request.restoreId
  | .sendCompletionNotification => .sendCompletionNotification ctx.request.restoreId

/-- Make the call awaited at `pc`. -/
def call (pc : Pc) : TaskM Unit := do
  perform (awaitedCall ctx (← TaskM.get).workdir pc)

/-- `_phase_planning` up to `_load_backup_metadata`. -/
def phasePlanningStart : TaskM Next := do
  enterPhase .planning "Analyzing backup and planning restore"
  pure (.await .loadBackupMetadata)

/-- `_phase_validation` up to `_validate_cluster_access`. -/
def phaseValidationStart : TaskM Next := do
  enterPhase .validation "Validating cluster and GitOps repository"
  pure (.await .validateClusterAccess)

/-- The rest of `_phase_planning` once the metadata is in, then the start of Validation. -/
def phasePlanningFinish (metadata : Option BackupMetadata) : TaskM Next := do
  match metadata with
  | none => throw ("Backup " ++ ctx.request.backupId ++ " not found or inaccessible")
  | some metadata =>
      let plan := createRestorePlan ctx.request metadata
      setProgress fun p => { p with resourcesTotal := plan.totalResources, totalSteps := plan.totalSteps }
      completeSteps 1
      phaseValidationStart

/-- `_phase_preparation` up to `_clone_gitops_repo`. -/
def phasePreparationStart : TaskM Next := do
  enterPhase .preparation "Preparing GitOps manifests"
  pure (.await .cloneGitopsRepo)

/-- The end of `_phase_validation`: conflicts outside a cluster rebuild become warnings. -/
def phaseValidationFinish (conflicts : List String) : TaskM Next := do
  if !conflicts.isEmpty && !(ctx.request.drScenario = .clusterRebuild) then
    setProgress fun p => { p with warnings := p.warnings ++ conflicts.map ("Conflict detected: " ++ ·) }
  completeSteps 2
  phasePreparationStart

/-- After the permission check: `_check_restore_conflicts`, which consults the cluster only outside
a dry run. -/
def checkRestoreConflicts : TaskM Next :=
  if ctx.request.dryRun then phaseValidationFinish ctx [] else pure (.await .checkRestoreConflicts)

/-- `_clone_gitops_repo`, whose clone raised `raised` or succeeded. -/
def cloneGitopsRepo (raised : Option String) : TaskM Next := do
  call ctx .cloneGitopsRepo
  let wd := (← TaskM.get).workdir
  require (!wd.cloned) ("fatal: destination path '" ++ (repoPath ctx).render ++
    "' already exists and is not an empty directory.")
  match raised with
  | some msg => throw msg
  | none =>
      TaskM.modify fun f => { f with workdir := { wd with present := true, cloned := true } }
      pure (.await .loadBackupResources)

/-- `_phase_gitops_sync` up to `_commit_gitops_manifests`. -/
def phaseGitopsSyncStart : TaskM Next := do
  enterPhase .gitopsSync "Synchronizing GitOps manifests"
  pure (.await .commitGitopsManifests)

/-- The rest of `_phase_preparation` once the backup resources are in: transform, generate the
`Application` (unused), validate. -/
def phasePreparationFinish (resources : List Value) : TaskM Next := do
  let manifests ← liftExcept (transformToGitops ctx.request ctx.now resources)
  let _clusterConfig := generateClusterConfig ctx.settings ctx.request
  liftExcept (validateGitopsManifests manifests)
  completeSteps 3
  phaseGitopsSyncStart

/-- `_commit_gitops_manifests`, whose commit raised `raised` or succeeded; opening the
repository fails first when the clone is gone. -/
def commitGitopsManifests (raised : Option String) : TaskM Next := do
  require (← TaskM.get).workdir.cloned (repoPath ctx).render
  call ctx .commitGitopsManifests
  match raised with
  | some msg => throw msg
  | none => pure (.await .pushGitopsRepo)

/-- After the push: the sync trigger when `auto_sync` is on, then the first poll. -/
def triggerOrMonitor : TaskM Next :=
  if ctx.settings.autoSync then pure (.await .triggerGitopsSync)
  else pure (.await (.monitorGitopsSync ⟨0, by decide⟩))

/-- `_phase_verification` up to `_wait_for_resources_ready`. -/
def phaseVerificationStart : TaskM Next := do
  enterPhase .verification "Verifying restored resources"
  pure (.await .waitForResourcesReady)

/-- Poll `i` of `_monitor_gitops_sync` has returned; the last one ends `_phase_gitops_sync`. -/
def monitorGitopsSync (i : Fin syncDuration) : TaskM Next := do
  setProgress fun p =>
    { p with currentStep := "GitOps sync in progress (" ++ toString (i.val + 1) ++ "/60s)" }
  if h : i.val + 1 < syncDuration then pure (.await (.monitorGitopsSync ⟨i.val + 1, h⟩))
  else
    completeSteps 4
    phaseVerificationStart

/-- Whether the request asks for functional tests. -/
def functionalTestsRequested (request : RestoreRequest) : Bool :=
  match request.validationConfig with
  | some config => !config.isEmpty && ((config.lookup "functional_tests").getD .none).truthy
  | none => false

/-- `_phase_cleanup` up to `_cleanup_temporary_namespaces`: the whole `work_dir` is removed. -/
def phaseCleanupStart : TaskM Next := do
  enterPhase .cleanup "Cleaning up temporary resources"
  TaskM.modify fun f => { f with workdir := if f.workdir.present then ⟨false, [], false⟩ else f.workdir }
  pure (.await .cleanupTemporaryNamespaces)

/-- The end of `_phase_verification`: the report is generated and dropped. -/
def phaseVerificationFinish : TaskM Next := do
  let _report := generateVerificationReport ctx.request ctx.now (← TaskM.get).healthReport
  completeSteps 5
  phaseCleanupStart

/-- The health report is in: functional tests if requested, else the end of Verification. -/
def validateResourceHealth (report : List (String × Value)) : TaskM Next := do
  TaskM.modify fun f => { f with healthReport := report }
  if functionalTestsRequested ctx.request then pure (.await .runFunctionalTests)
  else phaseVerificationFinish ctx

/-- Resume a task suspended at `pc` with the outcome `reply` of the awaited call. -/
def resumeAt : Pc → Reply → TaskM Next
  | .loadBackupMetadata, .metadata m => do
      call ctx .loadBackupMetadata
      phasePlanningFinish ctx m
  | .validateClusterAccess, .flag ok => do
      call ctx .validateClusterAccess
      require ok ("Cannot access target cluster: " ++ ctx.request.targetCluster)
      pure (.await .validateGitopsAccess)
  | .validateGitopsAccess, .flag ok => do
      call ctx .validateGitopsAccess
      require ok "Cannot access GitOps repository"
      pure (.await .validateRestorePermissions)
  | .validateRestorePermissions, .flag ok => do
      call ctx .validateRestorePermissions
      require ok "Insufficient permissions for restore operation"
      checkRestoreConflicts ctx
  | .checkRestoreConflicts, .conflicts cs => do
      call ctx .checkRestoreConflicts
      phaseValidationFinish ctx cs
  | .cloneGitopsRepo, .done => cloneGitopsRepo ctx none
  | .cloneGitopsRepo, .raise msg => cloneGitopsRepo ctx (some msg)
  | .loadBackupResources, .resources rs => do
      call ctx .loadBackupResources
      phasePreparationFinish ctx rs
  | .commitGitopsManifests, .commit _ => commitGitopsManifests ctx none
  | .commitGitopsManifests, .raise msg => commitGitopsManifests ctx (some msg)
  | .pushGitopsRepo, .done => do
      call ctx .pushGitopsRepo
      triggerOrMonitor ctx
  | .triggerGitopsSync, .done => do
      call ctx .triggerGitopsSync
      pure (.await (.monitorGitopsSync ⟨0, by decide⟩))
  | .monitorGitopsSync i, .done => do
      call ctx (.monitorGitopsSync i)
      monitorGitopsSync i
  | .waitForResourcesReady, .done => do
      call ctx .waitForResourcesReady
      pure (.await .validateResourceHealth)
  | .validateResourceHealth, .health report => do
      call ctx .validateResourceHealth
      validateResourceHealth ctx report
  | .runFunctionalTests, .done => do
      call ctx .runFunctionalTests
      phaseVerificationFinish ctx
  | .cleanupTemporaryNamespaces, .done => do
      call ctx .cleanupTemporaryNamespaces
      pure (.await .sendCompletionNotification)
  | .sendCompletionNotification, .done => do
      call ctx .sendCompletionNotification
      completeSteps 6
      pure .returned
  | pc, .raise msg => do
      call ctx pc
      throw msg
  | pc, _ => pure (.await pc)

end Segments

end Restore
end Tkkube
