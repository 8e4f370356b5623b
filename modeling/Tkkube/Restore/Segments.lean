import Tkkube.Restore.Phases

/-!
# What one segment of a restore task does

One spec lemma, `resumeAt_spec`, says everything later proofs need about a segment, so that none of
them unfolds a phase method again:

* the stage fields of the progress object (`phase`, `steps_completed`, `total_steps`,
  `percent_complete`) stay as they were when the segment raises, and otherwise match the next
  suspension point, which lies in the same phase or in the next one;
* the segment makes at most one external call, the one the task awaited;
* the scratch directory changes only by the clone and by the `rmtree` that opens Cleanup, and
  never in a segment that raises (`resumeAt_workdir_of_error`);
* `resources_processed`, `start_time` and `errors` are never written.

`phasePlanningStart_run` gives the first segment, which cannot raise.
-/

namespace Tkkube
namespace Restore

/-- The phase a task suspended at `pc` is in. -/
def Pc.phase : Pc → RestorePhase
  | .loadBackupMetadata => .planning
  | .validateClusterAccess | .validateGitopsAccess | .validateRestorePermissions
  | .checkRestoreConflicts => .validation
  | .cloneGitopsRepo | .loadBackupResources => .preparation
  | .commitGitopsManifests | .pushGitopsRepo | .triggerGitopsSync | .monitorGitopsSync _ => .gitopsSync
  | .waitForResourcesReady | .validateResourceHealth | .runFunctionalTests => .verification
  | .cleanupTemporaryNamespaces | .sendCompletionNotification => .cleanup

/-- How many phases have returned when a task is suspended at `pc`. -/
def Pc.stepsDone : Pc → Nat
  | .loadBackupMetadata => 0
  | .validateClusterAccess | .validateGitopsAccess | .validateRestorePermissions
  | .checkRestoreConflicts => 1
  | .cloneGitopsRepo | .loadBackupResources => 2
  | .commitGitopsManifests | .pushGitopsRepo | .triggerGitopsSync | .monitorGitopsSync _ => 3
  | .waitForResourcesReady | .validateResourceHealth | .runFunctionalTests => 4
  | .cleanupTemporaryNamespaces | .sendCompletionNotification => 5

theorem Pc.stepsDone_le_five (pc : Pc) : pc.stepsDone ≤ 5 := by
  cases pc <;> simp [stepsDone]

/-- The stage fields of a progress object whose task is suspended at `pc`. -/
def StageAt (pc : Pc) (p : RestoreProgress) : Prop :=
  p.phase = pc.phase ∧ p.stepsCompleted = pc.stepsDone ∧ p.totalSteps = 7 ∧
    p.percentComplete = percentOf pc.stepsDone 7

/-- The suspension point a segment from `pc` stops at lies in the phase of `pc` or in the next. -/
def StepsAfter (pc : Pc) : Except String Next → Prop
  | .ok (.await pc') => pc.stepsDone ≤ pc'.stepsDone ∧ pc'.stepsDone ≤ pc.stepsDone + 1
  | _ => True

/-- The stage fields after a segment that started at `pc` from progress `p` and ended with `res`. -/
def StagePost (pc : Pc) (p : RestoreProgress) : Except String Next → RestoreProgress → Prop
  | .ok (.await pc'), q => StageAt pc' q
  | .ok .returned, q =>
      pc = .sendCompletionNotification ∧ q.phase = .cleanup ∧ q.stepsCompleted = 6 ∧
        q.totalSteps = 7 ∧ q.percentComplete = percentOf 6 7
  | .error _, q =>
      q.phase = p.phase ∧ q.stepsCompleted = p.stepsCompleted ∧ q.totalSteps = p.totalSteps ∧
        q.percentComplete = p.percentComplete

/-- `work_dir` after `shutil.rmtree(work_dir)` when it exists. -/
def Workdir.removed (wd : Workdir) : Workdir :=
  if wd.present then ⟨false, [], false⟩ else wd

/-- Everything a segment resumed at `pc` from frame `f` does, when it ends with `res` in `f'`. -/
structure SegmentSpec (ctx : Ctx) (pc : Pc) (f : Frame) (res : Except String Next) (f' : Frame) :
    Prop where
  next : StepsAfter pc res
  stage : StageAt pc f.progress → StagePost pc f.progress res f'.progress
  calls : f'.calls = f.calls ∨ f'.calls = f.calls ++ [awaitedCall ctx f.workdir pc]
  workdir : f'.workdir = f.workdir ∨
    (pc = .cloneGitopsRepo ∧ f'.workdir = { f.workdir with present := true, cloned := true }) ∨
    ((pc = .validateResourceHealth ∨ pc = .runFunctionalTests) ∧ f'.workdir = f.workdir.removed)
  resourcesProcessed : f'.progress.resourcesProcessed = f.progress.resourcesProcessed
  startTime : f'.progress.startTime = f.progress.startTime
  errors : f'.progress.errors = f.progress.errors

/-- A segment resumed with a reply it does not await stays where it is. -/
theorem SegmentSpec.idle (ctx : Ctx) (pc : Pc) (f : Frame) : SegmentSpec ctx pc f (.ok (.await pc)) f :=
  ⟨⟨le_rfl, Nat.le_succ _⟩, id, .inl rfl, .inl rfl, rfl, rfl, rfl⟩

/-- A segment whose awaited call raised has made that call and nothing else. -/
theorem SegmentSpec.raise (ctx : Ctx) (pc : Pc) (f : Frame) (msg : String) :
    SegmentSpec ctx pc f (.error msg) { f with calls := f.calls ++ [awaitedCall ctx f.workdir pc] } :=
  ⟨trivial, fun _ => ⟨rfl, rfl, rfl, rfl⟩, .inr rfl, .inl rfl, rfl, rfl, rfl⟩

/-- The spec of every segment: the arms that do not advance are `idle` and `raise`, the others are
run symbolically. -/
theorem resumeAt_spec (ctx : Ctx) (pc : Pc) (reply : Reply) (f : Frame)
    {res : Except String Next} {f' : Frame} (hrun : (resumeAt ctx pc reply).run f = (res, f')) :
    SegmentSpec ctx pc f res f' := by
  cases pc <;> cases reply
  all_goals simp [resumeAt, call, perform, phasePlanningFinish, phaseValidationStart, completeSteps,
      setProgress, enterPhase, createRestorePlan, phaseValidationFinish, phasePreparationStart,
      checkRestoreConflicts, cloneGitopsRepo, phasePreparationFinish, phaseGitopsSyncStart,
      commitGitopsManifests, triggerOrMonitor, monitorGitopsSync, phaseVerificationStart,
      validateResourceHealth, phaseVerificationFinish, phaseCleanupStart] at hrun
  all_goals (repeat' split at hrun)
  all_goals (try obtain ⟨rfl, rfl⟩ := hrun)
  all_goals first
    | exact SegmentSpec.idle ctx _ _
    | exact SegmentSpec.raise ctx _ _ _
    | refine ⟨?_, fun hstage => ?_, ?_, ?_, ?_, ?_, ?_⟩ <;>
        simp_all [StepsAfter, StagePost, StageAt, Pc.phase, Pc.stepsDone, Workdir.removed]

/-- A segment that raises leaves the scratch directory as it found it: the clone and the `rmtree`
are done only by segments that go on to await a call. -/
theorem resumeAt_workdir_of_error {ctx : Ctx} {pc : Pc} {reply : Reply} {f f' : Frame} {msg : String}
    (hrun : (resumeAt ctx pc reply).run f = (.error msg, f')) : f'.workdir = f.workdir := by
  rcases (resumeAt_spec ctx pc reply f hrun).workdir with h | ⟨rfl, -⟩ | ⟨hpc | hpc, -⟩
  · exact h
  all_goals subst_vars; cases reply
  all_goals simp [resumeAt, cloneGitopsRepo, call, perform, validateResourceHealth,
    phaseVerificationFinish, completeSteps, setProgress, phaseCleanupStart, enterPhase] at hrun
  all_goals (repeat' split at hrun) <;> (try obtain ⟨rfl, rfl⟩ := hrun) <;> rfl

/-- The first segment of a task, `_phase_planning` up to its first call. -/
theorem phasePlanningStart_run (f : Frame) :
    phasePlanningStart.run f = (.ok (.await .loadBackupMetadata),
      { f with progress := { f.progress with phase := .planning,
                                             currentStep := "Analyzing backup and planning restore" } }) :=
  rfl

theorem phasePlanningStart_spec (ctx : Ctx) (f : Frame) :
    SegmentSpec ctx .loadBackupMetadata f (phasePlanningStart.run f).1 (phasePlanningStart.run f).2 := by
  rw [phasePlanningStart_run]
  exact ⟨⟨le_rfl, Nat.zero_le _⟩, fun ⟨_, h⟩ => ⟨rfl, h⟩, .inl rfl, .inl rfl, rfl, rfl, rfl⟩

end Restore
end Tkkube
