import Tkkube.Restore.Effects

/-!
# Two restores on one scratch directory

All restores of an orchestrator clone into the one path `work_dir/gitops_repo`, and Cleanup removes
the whole `work_dir`.  So a restore that clones while another's clone is in place fails on the
existing destination, and one whose Cleanup runs while another still needs its clone removes it.

Everything else is private to a restore: its progress object, its calls and its result.  A step
reads the scratch directory only between the clone call and the end of Verification (its
*window*), and there only through whether a clone is in place.  This module shows that when the
windows of two restores never overlap, and each restore succeeds when run alone on its replies,
each restore goes through exactly the states it goes through alone:

* `resumeAt_congr`: a segment run on two scratch directories that agree on the clone behaves the
  same, and outside the window the scratch directory does not matter at all;
* `resumeAt_holdsClone`: alone, the clone is in place exactly while the task holds it;
* `SlotSim` relates a restore in a run to the same restore alone, and `SlotSim.resume` and
  `SlotSim.resume_other` are its step lemmas;
* `two_restores_independent` is the simulation along every interleaving, and
  `cloneWhileCloned` is a schedule where the second restore clones inside the first one's window.
-/

namespace Tkkube
namespace Restore

/-! ## The window of a restore -/

/-- The suspension points after a successful clone and before Cleanup's `rmtree`. -/
def Pc.holdsClone : Pc → Bool
  | .loadBackupResources | .commitGitopsManifests | .pushGitopsRepo | .triggerGitopsSync
  | .monitorGitopsSync _ | .waitForResourcesReady | .validateResourceHealth
  | .runFunctionalTests => true
  | _ => false

/-- The suspension points whose steps read the scratch directory: the clone call and those that
hold the clone. -/
def Pc.inWindow : Pc → Bool
  | .cloneGitopsRepo => true
  | pc => pc.holdsClone

theorem Pc.inWindow_of_holdsClone {pc : Pc} (h : pc.holdsClone = true) : pc.inWindow = true := by
  cases pc <;> simp_all [holdsClone, inWindow]

/-- What every scratch directory along a run satisfies: nothing in `generated`, and a clone only
inside an existing `work_dir`. -/
def Workdir.Tidy (wd : Workdir) : Prop :=
  wd.generated = [] ∧ (wd.cloned = true → wd.present = true)

/-- Two runs of the segment from `pc`, on frames that differ only in their scratch directories `w`
and `w'`, that differ only in the scratch directories they leave: both leave theirs alone, or the
segment is in the window and both leave the same one. -/
def RunsAlike (pc : Pc) (w w' : Workdir) (o o' : Except String Next × Frame) : Prop :=
  o'.1 = o.1 ∧ o'.2.progress = o.2.progress ∧ o'.2.calls = o.2.calls ∧
    o'.2.healthReport = o.2.healthReport ∧
    ((o.2.workdir = w ∧ o'.2.workdir = w') ∨ (pc.inWindow = true ∧ o'.2.workdir = o.2.workdir))

/-- The awaited call reads the scratch directory only through `generated`. -/
theorem awaitedCall_congr (ctx : Ctx) (pc : Pc) {w w' : Workdir} (h : w.generated = w'.generated) :
    awaitedCall ctx w pc = awaitedCall ctx w' pc := by
  cases pc <;> simp [awaitedCall, manifestFiles, h]

theorem RunsAlike.idle (pc : Pc) (f : Frame) (w : Workdir) :
    RunsAlike pc f.workdir w (.ok (.await pc), f) (.ok (.await pc), { f with workdir := w }) :=
  ⟨rfl, rfl, rfl, rfl, .inl ⟨rfl, rfl⟩⟩

theorem RunsAlike.raise (ctx : Ctx) (pc : Pc) (f : Frame) (w : Workdir) (msg : String)
    (h : w.generated = f.workdir.generated) :
    RunsAlike pc f.workdir w (.error msg, { f with calls := f.calls ++ [awaitedCall ctx f.workdir pc] })
      (.error msg, { f with workdir := w, calls := f.calls ++ [awaitedCall ctx w pc] }) :=
  ⟨rfl, rfl, by simp [awaitedCall_congr ctx pc h], rfl, .inl ⟨rfl, rfl⟩⟩

/-- A segment depends on the scratch directory only through the clone flag, and only inside the
window; there a clone or an `rmtree` leaves the same directory from both. -/
theorem resumeAt_congr (ctx : Ctx) (pc : Pc) (reply : Reply) (f : Frame) (w : Workdir)
    (hf : f.workdir.Tidy) (hw : w.Tidy) (hcl : pc.inWindow = true → w.cloned = f.workdir.cloned) :
    RunsAlike pc f.workdir w ((resumeAt ctx pc reply).run f)
      ((resumeAt ctx pc reply).run { f with workdir := w }) := by
  obtain ⟨fp, ⟨present, gen, cloned⟩, fc, fh⟩ := f
  obtain ⟨present', gen', cloned'⟩ := w
  obtain ⟨rfl, hf⟩ := hf
  obtain ⟨rfl, hw⟩ := hw
  cases pc <;> cases reply
  all_goals first
    | exact RunsAlike.idle _ _ _
    | exact RunsAlike.raise ctx _ _ _ _ rfl
    | simp [resumeAt, call, perform, phasePlanningFinish, phaseValidationStart, completeSteps,
        setProgress, enterPhase, createRestorePlan, phaseValidationFinish, phasePreparationStart,
        checkRestoreConflicts, cloneGitopsRepo, phasePreparationFinish, phaseGitopsSyncStart,
        commitGitopsManifests, triggerOrMonitor, monitorGitopsSync, phaseVerificationStart,
        validateResourceHealth, phaseVerificationFinish, phaseCleanupStart, RunsAlike, Pc.inWindow,
        Pc.holdsClone, awaitedCall, manifestFiles] at hcl ⊢ <;>
      (repeat' split) <;> simp_all

/-- Whether the task holds its clone after a segment from `pc` that ended with `res`; a segment that
raised leaves the scratch directory as it was. -/
def afterHoldsClone (pc : Pc) : Except String Next → Bool
  | .ok (.await pc') => pc'.holdsClone
  | .ok .returned => false
  | .error _ => pc.holdsClone

/-- When the clone is in place exactly while the task holds it, a segment keeps it so. -/
theorem resumeAt_holdsClone (ctx : Ctx) (pc : Pc) (reply : Reply) (f : Frame) (hf : f.workdir.Tidy)
    (hcl : f.workdir.cloned = pc.holdsClone) {res : Except String Next} {f' : Frame}
    (hrun : (resumeAt ctx pc reply).run f = (res, f')) :
    f'.workdir.cloned = afterHoldsClone pc res := by
  obtain ⟨fp, ⟨present, gen, cloned⟩, fc, fh⟩ := f
  obtain ⟨rfl, hf⟩ := hf
  simp only at hcl
  subst hcl
  cases pc <;> cases reply
  all_goals simp [resumeAt, call, perform, phasePlanningFinish, phaseValidationStart, completeSteps,
      setProgress, enterPhase, createRestorePlan, phaseValidationFinish, phasePreparationStart,
      checkRestoreConflicts, cloneGitopsRepo, phasePreparationFinish, phaseGitopsSyncStart,
      commitGitopsManifests, triggerOrMonitor, monitorGitopsSync, phaseVerificationStart,
      validateResourceHealth, phaseVerificationFinish, phaseCleanupStart, Pc.holdsClone] at hf hrun
  all_goals (repeat' split at hrun)
  all_goals (try obtain ⟨rfl, rfl⟩ := hrun)
  all_goals simp_all [afterHoldsClone, Pc.holdsClone]

theorem SegmentSpec.tidy {ctx : Ctx} {pc : Pc} {f f' : Frame} {res : Except String Next}
    (h : SegmentSpec ctx pc f res f') (hf : f.workdir.Tidy) : f'.workdir.Tidy := by
  rcases h.workdir with h | ⟨-, h⟩ | ⟨-, h⟩ <;> rw [h]
  · exact hf
  · exact ⟨hf.1, fun _ => rfl⟩
  · unfold Workdir.removed; split
    · exact ⟨rfl, fun h => by cases h⟩
    · exact hf

/-! ## Tasks in the window -/

namespace TaskState

/-- The task holds its clone. -/
def holdsClone : TaskState → Bool
  | .suspended _ pc _ => pc.holdsClone
  | _ => false

/-- The task's next step reads the scratch directory. -/
def inWindow : TaskState → Bool
  | .suspended _ pc _ => pc.inWindow
  | _ => false

/-- The same point of the code, holding progress object `ref`. -/
def relabel (ref : Nat) : TaskState → TaskState
  | .suspended _ pc hr => .suspended ref pc hr
  | t => t

@[simp] theorem holdsClone_relabel (ref : Nat) (t : TaskState) :
    (t.relabel ref).holdsClone = t.holdsClone := by
  cases t <;> rfl

@[simp] theorem inWindow_relabel (ref : Nat) (t : TaskState) :
    (t.relabel ref).inWindow = t.inWindow := by
  cases t <;> rfl

theorem inWindow_of_holdsClone {t : TaskState} (h : t.holdsClone = true) : t.inWindow = true := by
  cases t <;> simp_all [holdsClone, inWindow, Pc.inWindow_of_holdsClone]

end TaskState

namespace Orchestrator

variable {s t u : Orchestrator}

/-! ## Frame lemmas for a step -/

theorem resume_of_not_running {k : Nat} (reply : Reply) (h : (s.restores k).task.running = false) :
    s.resume k reply = s := by
  unfold resume; split
  · split <;> simp_all [TaskState.running]
  · rfl

section Untouched

variable {k ref : Nat} {res : Except String Next} {p : RestoreProgress} {hr : List (String × Value)}
  {m : TaskM Next} {reply : Reply}

@[simp] theorem settle_clock : (s.settle k ref res p hr).clock = s.clock := by
  rcases res with _ | (_ | _) <;> rfl
@[simp] theorem settle_settings : (s.settle k ref res p hr).settings = s.settings := by
  rcases res with _ | (_ | _) <;> rfl
@[simp] theorem settle_workDir : (s.settle k ref res p hr).workDir = s.workDir := by
  rcases res with _ | (_ | _) <;> rfl

@[simp] theorem resume_clock : (s.resume k reply).clock = s.clock := by
  rcases resume_cases (s := s) k reply with e | ⟨-, -, -, e⟩ | ⟨_, _, _, -, -, e⟩ <;>
    simp [e, runSegment_eq]
@[simp] theorem resume_settings : (s.resume k reply).settings = s.settings := by
  rcases resume_cases (s := s) k reply with e | ⟨-, -, -, e⟩ | ⟨_, _, _, -, -, e⟩ <;>
    simp [e, runSegment_eq]
@[simp] theorem resume_workDir : (s.resume k reply).workDir = s.workDir := by
  rcases resume_cases (s := s) k reply with e | ⟨-, -, -, e⟩ | ⟨_, _, _, -, -, e⟩ <;>
    simp [e, runSegment_eq]

end Untouched

/-- A step keeps the scratch directory tidy. -/
theorem resume_tidy (k : Nat) (reply : Reply) (h : s.workdir.Tidy) : (s.resume k reply).workdir.Tidy := by
  rcases resume_cases (s := s) k reply with e | ⟨-, -, -, e⟩ | ⟨ref, hr, m, -, hcase, e⟩ <;> rw [e]
  · exact h
  · exact h
  · rw [runSegment_workdir]
    rcases hcase with ⟨-, -, -, rfl⟩ | ⟨pc, -, rfl⟩
    · rw [phasePlanningStart_run]; exact h
    · exact (resumeAt_spec _ pc reply _ rfl).tidy h

theorem step_tidy (e : Event) (h : s.workdir.Tidy) : (s.step e).workdir.Tidy := by
  cases e with
  | startRestore _ validation => cases validation <;> exact h
  | cancelRestore => rw [step_cancelRestore]; exact h
  | getRestoreStatus => exact h
  | resume k reply => exact resume_tidy k reply h
  | tick => exact h

theorem restoreHistory_prefix_step (e : Event) : s.restoreHistory <+: (s.step e).restoreHistory := by
  cases e with
  | startRestore _ validation => cases validation <;> exact List.prefix_refl _
  | cancelRestore => rw [step_cancelRestore]
  | getRestoreStatus => exact List.prefix_refl _
  | resume k reply =>
      rcases resume_restoreHistory (s := s) k reply with h | ⟨_, _, h⟩ <;> rw [step_resume, h]
      exact List.prefix_append _ _
  | tick => exact List.prefix_refl _

/-- Results are only ever appended. -/
theorem restoreHistory_prefix_run : ∀ {s : Orchestrator} (es : List Event),
    s.restoreHistory <+: (s.run es).restoreHistory
  | _, [] => List.prefix_refl _
  | s, e :: es => (restoreHistory_prefix_step (s := s) e).trans (restoreHistory_prefix_run (s := s.step e) es)

theorem run_initial_mem_trace : ∀ {s : Orchestrator} {es fs : List Event}, es <+: fs →
    s.run es ∈ s.trace fs
  | s, [], fs, _ => by cases fs <;> exact List.mem_cons_self _ _
  | s, e :: es, fs, ⟨rest, h⟩ => by
      subst h
      exact List.mem_cons_of_mem _ (run_initial_mem_trace (s := s.step e) (List.prefix_append es rest))

/-! ## A restore in a run and the same restore alone -/

/-- Slot `k` of `t` and slot `j` of `u` are one restore at one point: the same request, progress
object, calls and point in the code, each task holding its own slot's object, the entry under the
restore's id naming that object, and the same results under the id. -/
structure SlotSim (t : Orchestrator) (k : Nat) (u : Orchestrator) (j : Nat) : Prop where
  started : k < t.started ∧ j < u.started
  request : (t.restores k).request = (u.restores j).request
  progress : (t.restores k).progress = (u.restores j).progress
  calls : (t.restores k).calls = (u.restores j).calls
  task : (t.restores k).task = (u.restores j).task.relabel k
  own : (u.restores j).task.relabel j = (u.restores j).task
  active : t.activeRestores (u.restores j).request.restoreId =
    (u.activeRestores (u.restores j).request.restoreId).map fun _ => k
  activeOwn : ∀ {ref}, u.activeRestores (u.restores j).request.restoreId = some ref → ref = j
  history : t.restoreHistory.filter (fun res => res.restoreId = (u.restores j).request.restoreId) =
    u.restoreHistory
  clock : t.clock = u.clock
  settings : t.settings = u.settings
  workDir : t.workDir = u.workDir

variable {k j : Nat}

theorem SlotSim.frameOf_eq (h : SlotSim t k u j) (hr : List (String × Value)) :
    t.frameOf k k hr = { u.frameOf j j hr with workdir := t.workdir } := by
  simp [Orchestrator.frameOf, h.progress, h.calls]

theorem SlotSim.ctxOf_eq (h : SlotSim t k u j) : t.ctxOf k = u.ctxOf j := by
  simp [Orchestrator.ctxOf, h.settings, h.workDir, h.clock, h.request]

@[simp] theorem assembleResult_restoreId (request : RestoreRequest) (p : RestoreProgress) (now : Nat)
    (error : Option String) : (assembleResult request p now error).restoreId = request.restoreId :=
  rfl

section Settle

variable {f f' : Frame} (h : SlotSim t k u j) (hcalls : f.calls = f'.calls)
include h hcalls

/-- Both stop at the same suspension point. -/
theorem SlotSim.suspend (hprog : f.progress = f'.progress) (pc : Pc) (hr : List (String × Value)) :
    SlotSim ((t.writeBack k k f).withTask k (.suspended k pc hr)) k
      ((u.writeBack j j f').withTask j (.suspended j pc hr)) j where
  started := by simpa using h.started
  request := by simp [h.request]
  progress := by simp [hprog]
  calls := by simp [hcalls]
  task := by simp [TaskState.relabel]
  own := by simp [TaskState.relabel]
  active := by simpa using h.active
  activeOwn hu := h.activeOwn (by simpa using hu)
  history := by simpa using h.history
  clock := by simpa using h.clock
  settings := by simpa using h.settings
  workDir := by simpa using h.workDir

/-- Both end with the same final progress and the same error. -/
theorem SlotSim.terminate (p : RestoreProgress) (e : Option String) :
    SlotSim ((t.writeBack k k f).terminate k k p e) k ((u.writeBack j j f').terminate j j p e) j where
  started := by simpa using h.started
  request := by simp [h.request]
  progress := by simp
  calls := by simp [hcalls]
  task := by simp [TaskState.relabel]
  own := by simp [TaskState.relabel]
  active := by simp [Function.update_apply, h.request]
  activeOwn hu := by simp [Function.update_apply] at hu
  history := by simp [List.filter_append, h.request, h.clock, h.history]
  clock := by simpa using h.clock
  settings := by simpa using h.settings
  workDir := by simpa using h.workDir

end Settle

/-- Both run one segment with the same outcome. -/
theorem SlotSim.runSegment (h : SlotSim t k u j) {hr : List (String × Value)} {m : TaskM Next}
    (hres : (m.run (t.frameOf k k hr)).1 = (m.run (u.frameOf j j hr)).1)
    (hprog : (m.run (t.frameOf k k hr)).2.progress = (m.run (u.frameOf j j hr)).2.progress)
    (hcalls : (m.run (t.frameOf k k hr)).2.calls = (m.run (u.frameOf j j hr)).2.calls)
    (hhr : (m.run (t.frameOf k k hr)).2.healthReport = (m.run (u.frameOf j j hr)).2.healthReport) :
    SlotSim (t.runSegment k k hr m) k (u.runSegment j j hr m) j := by
  rw [runSegment_eq, runSegment_eq, hres, hprog, hhr]
  rcases (m.run (u.frameOf j j hr)).1 with msg | (pc | _)
  · exact h.terminate hcalls _ _
  · exact h.suspend hcalls hprog pc _
  · exact h.terminate hcalls _ _

theorem resume_crash {k : Nat} (reply : Reply) (hk : k < s.started)
    (htask : (s.restores k).task = .spawned)
    (hact : s.activeRestores (s.restores k).request.restoreId = none) :
    s.resume k reply = s.withTask k (.crashed (Value.quote (s.restores k).request.restoreId)) := by
  simp [resume, hk, htask, hact]

/-- Both die with the same `KeyError`. -/
theorem SlotSim.crash (h : SlotSim t k u j) (error : String) :
    SlotSim (t.withTask k (.crashed error)) k (u.withTask j (.crashed error)) j where
  started := by simpa using h.started
  request := by simp [h.request]
  progress := by simp [h.progress]
  calls := by simp [h.calls]
  task := by simp [TaskState.relabel]
  own := by simp [TaskState.relabel]
  active := by simpa using h.active
  activeOwn hu := h.activeOwn (by simpa using hu)
  history := by simpa using h.history
  clock := by simpa using h.clock
  settings := by simpa using h.settings
  workDir := by simpa using h.workDir

/-- Both take a step with the same reply.  Where the step reads the scratch directory, the two
must agree on the clone; then both leave their scratch directories alone, or the step is in the
window and both leave the same one. -/
theorem SlotSim.resume (h : SlotSim t k u j) (ht : t.workdir.Tidy) (hu : u.workdir.Tidy)
    (hcl : (u.restores j).task.inWindow = true → t.workdir.cloned = u.workdir.cloned)
    (reply : Reply) :
    SlotSim (t.resume k reply) k (u.resume j reply) j ∧
      (((t.resume k reply).workdir = t.workdir ∧ (u.resume j reply).workdir = u.workdir) ∨
        ((u.restores j).task.inWindow = true ∧
          (t.resume k reply).workdir = (u.resume j reply).workdir)) := by
  have htask := h.task
  have hown := h.own
  have hid : (t.restores k).request.restoreId = (u.restores j).request.restoreId := by
    rw [h.request]
  rcases hj : (u.restores j).task with _ | ⟨ref, pc, hr⟩ | _ | error <;>
    rw [hj] at htask hown hcl <;> simp only [TaskState.relabel] at htask hown
  · have hact := h.active
    cases hida : u.activeRestores (u.restores j).request.restoreId with
    | none =>
        rw [hida] at hact
        rw [resume_crash reply h.started.1 htask (by rw [hid, hact]; rfl),
          resume_crash reply h.started.2 hj hida, hid]
        exact ⟨h.crash _, .inl ⟨rfl, rfl⟩⟩
    | some ref =>
        obtain rfl := h.activeOwn hida
        rw [hida] at hact
        rw [resume_spawned reply h.started.1 htask (by rw [hid, hact]; rfl),
          resume_spawned reply h.started.2 hj hida]
        refine ⟨h.runSegment ?_ ?_ ?_ ?_, .inl ⟨?_, ?_⟩⟩ <;>
          simp [runSegment_workdir, phasePlanningStart_run, Orchestrator.frameOf, h.progress, h.calls]
  · cases hown
    have hctx := h.ctxOf_eq
    rw [resume_suspended reply h.started.1 htask, resume_suspended reply h.started.2 hj, hctx,
      runSegment_workdir, runSegment_workdir]
    have halike := resumeAt_congr (u.ctxOf j) pc reply (u.frameOf j j hr) t.workdir hu ht
      fun hw => hcl (by simpa [TaskState.inWindow] using hw)
    rw [← h.frameOf_eq] at halike
    obtain ⟨hres, hprog, hcalls, hhr, hwd⟩ := halike
    refine ⟨h.runSegment hres hprog hcalls hhr, ?_⟩
    rcases hwd with ⟨hu', ht'⟩ | ⟨hw, hwd⟩
    · exact .inl ⟨ht', hu'⟩
    · exact .inr ⟨by simpa [TaskState.inWindow] using hw, hwd⟩
  · rw [resume_finished reply htask, resume_finished reply hj]
    exact ⟨h, .inl ⟨rfl, rfl⟩⟩
  · rw [resume_of_not_running reply (by rw [htask]; rfl), resume_of_not_running reply (by rw [hj]; rfl)]
    exact ⟨h, .inl ⟨rfl, rfl⟩⟩

/-- A step of a task of another restore leaves the restore alone. -/
theorem SlotSim.resume_other (h : SlotSim t k u j) (hinv : Inv t) {k' : Nat} (hk : k ≠ k')
    (hid : (t.restores k').request.restoreId ≠ (u.restores j).request.restoreId) (reply : Reply) :
    SlotSim (t.resume k' reply) k u j where
  started := by simpa using h.started
  request := by simp [h.request]
  progress := (hinv.resume_of_ne reply (by rw [h.request]; exact Ne.symm hid)).1.trans h.progress
  calls := (resume_calls_of_ne reply hk).trans h.calls
  task := (hinv.resume_of_ne reply (by rw [h.request]; exact Ne.symm hid)).2.trans h.task
  own := h.own
  active := (resume_activeRestores_of_ne (Ne.symm hid)).trans h.active
  activeOwn := h.activeOwn
  history := by
    rcases resume_restoreHistory (s := t) k' reply with e | ⟨_, _, e⟩ <;>
      simp [e, List.filter_append, hid, h.history]
  clock := by simpa using h.clock
  settings := by simpa using h.settings
  workDir := by simpa using h.workDir

/-! ## A restore alone -/

/-- What holds of restore `q` run alone on a fresh orchestrator, as long as it has not failed: it is
restore `0`, the clock has not moved, its results carry its id, and the clone is in place exactly
while the task holds it. -/
structure Alone (q : RestoreRequest) (u : Orchestrator) : Prop where
  inv : Inv u
  tidy : u.workdir.Tidy
  started : u.started = 1
  clock : u.clock = 0
  request : (u.restores 0).request = q
  results : ∀ res ∈ u.restoreHistory, res.restoreId = q.restoreId
  cloned : u.workdir.cloned = (u.restores 0).task.holdsClone

variable {q : RestoreRequest}

theorem Alone.own (h : Alone q u) : (u.restores 0).task.relabel 0 = (u.restores 0).task := by
  rcases ht : (u.restores 0).task with _ | ⟨ref, pc, hr⟩ | _ | _ <;> simp only [TaskState.relabel]
  have := (h.inv.held (by rw [h.started]; exact Nat.one_pos) ht).1
  rw [h.started] at this
  rw [Nat.lt_one_iff.mp this]

theorem Alone.activeOwn (h : Alone q u) {ref : Nat} (ha : u.activeRestores q.restoreId = some ref) :
    ref = 0 :=
  Nat.lt_one_iff.mp (h.started ▸ (h.inv.active ha).1)

theorem Alone.spawn (settings : GitopsSettings) (workDir : String) :
    Alone q ((Orchestrator.init settings workDir).spawn q) where
  inv := (Inv.init settings workDir).spawn q
  tidy := ⟨rfl, fun h => by cases h⟩
  started := rfl
  clock := rfl
  request := by simp [Orchestrator.init]
  results _ h := by cases h
  cloned := by simp [Orchestrator.init, Workdir.initial, TaskState.holdsClone]

/-- A step of the task that records no failure keeps it so. -/
theorem Alone.resume (h : Alone q u) (reply : Reply)
    (hok : ∀ res ∈ (u.resume 0 reply).restoreHistory, res.success = true) :
    Alone q (u.resume 0 reply) where
  inv := h.inv.resume 0 reply
  tidy := resume_tidy 0 reply h.tidy
  started := by simp [h.started]
  clock := by simp [h.clock]
  request := by simp [h.request]
  results res hres := by
    rcases resume_restoreHistory (s := u) 0 reply with e | ⟨_, _, e⟩ <;>
      rw [e] at hres
    · exact h.results res hres
    · rcases List.mem_append.mp hres with hres | hres
      · exact h.results res hres
      · rw [List.mem_singleton.mp hres, assembleResult_restoreId, h.request]
  cloned := by
    have hcl := h.cloned
    rcases resume_cases (s := u) 0 reply with e | ⟨-, hsp, -, e⟩ | ⟨ref, hr, m, -, hcase, e⟩ <;>
      rw [e] at hok ⊢
    · exact hcl
    · simpa [hsp, TaskState.holdsClone] using hcl
    · rw [runSegment_eq] at hok ⊢
      rcases hcase with ⟨hsp, -, rfl, rfl⟩ | ⟨pc, hsus, rfl⟩
      · simpa [phasePlanningStart_run, settle, hsp, TaskState.holdsClone, Pc.holdsClone,
          Orchestrator.frameOf] using hcl
      · rw [hsus] at hcl
        generalize hrun : (resumeAt (u.ctxOf 0) pc reply).run (u.frameOf 0 ref hr) = o at hok ⊢
        obtain ⟨res, f⟩ := o
        have hf := resumeAt_holdsClone _ pc reply _ h.tidy hcl hrun
        rcases res with msg | (pc' | _)
        · simp only [settle, terminate_restoreHistory] at hok
          exact absurd (hok _ (List.mem_append_right _ (List.mem_singleton_self _)))
            (by simp [assembleResult])
        · simpa [settle, TaskState.holdsClone, afterHoldsClone] using hf
        · simpa [settle, TaskState.holdsClone, afterHoldsClone] using hf

@[simp] theorem runAlone_nil (request : RestoreRequest) :
    runAlone request [] = [.startRestore request none] := rfl

theorem runAlone_append (request : RestoreRequest) (rs rs' : List Reply) :
    runAlone request (rs ++ rs') = runAlone request rs ++ rs'.map (.resume 0) := by
  simp [runAlone]

theorem runAlone_snoc (request : RestoreRequest) (rs : List Reply) (r : Reply) :
    runAlone request (rs ++ [r]) = runAlone request rs ++ [.resume 0 r] :=
  runAlone_append request rs [r]

/-- Restore `q` run alone, as long as it records no failure. -/
theorem Alone.run (settings : GitopsSettings) (workDir : String) (rs : List Reply)
    (hok : ∀ res ∈ ((Orchestrator.init settings workDir).run (runAlone q rs)).restoreHistory,
      res.success = true) :
    Alone q ((Orchestrator.init settings workDir).run (runAlone q rs)) := by
  induction rs using List.reverseRecOn with
  | nil => exact Alone.spawn settings workDir
  | append_singleton rs r ih =>
      rw [runAlone_append, run_append] at hok ⊢
      refine (ih fun res hres => hok res ?_).resume r hok
      exact (restoreHistory_prefix_run (s := (Orchestrator.init settings workDir).run (runAlone q rs))
        [.resume 0 r]).subset hres

/-! ## Two restores, interleaved -/

/-- Restore `qa` started and its task stepped on `ra`; then restore `qb` started; then `steps`, each
a step of the first task (`true`) or of the second (`false`) with a reply. -/
def twoRestores (qa qb : RestoreRequest) (ra : List Reply) (steps : List (Bool × Reply)) :
    List Event :=
  runAlone qa ra ++ .startRestore qb none :: steps.map fun step => .resume (if step.1 then 0 else 1) step.2

/-- The replies `steps` gives the first restore (`true`) or the second (`false`). -/
def repliesOf (first : Bool) (steps : List (Bool × Reply)) : List Reply :=
  (steps.filter fun step => step.1 == first).map (·.2)

theorem twoRestores_append (qa qb : RestoreRequest) (ra : List Reply) (pre : List (Bool × Reply))
    (first : Bool) (r : Reply) :
    twoRestores qa qb ra (pre ++ [(first, r)]) =
      twoRestores qa qb ra pre ++ [.resume (if first then 0 else 1) r] := by
  simp [twoRestores]

theorem repliesOf_append (x : Bool) (pre : List (Bool × Reply)) (first : Bool) (r : Reply) :
    repliesOf x (pre ++ [(first, r)]) = repliesOf x pre ++ if first = x then [r] else [] := by
  by_cases h : first = x <;> simp [repliesOf, h]

theorem repliesOf_mono (x : Bool) {pre steps : List (Bool × Reply)} (h : pre <+: steps) :
    repliesOf x pre <+: repliesOf x steps := by
  obtain ⟨rest, rfl⟩ := h
  simp only [repliesOf, List.filter_append, List.map_append]
  exact List.prefix_append _ _

theorem twoRestores_mono (qa qb : RestoreRequest) (ra : List Reply)
    {pre steps : List (Bool × Reply)} (h : pre <+: steps) :
    twoRestores qa qb ra pre <+: twoRestores qa qb ra steps := by
  obtain ⟨rest, rfl⟩ := h
  exact ⟨rest.map fun step => .resume (if step.1 then 0 else 1) step.2, by simp [twoRestores]⟩

theorem runAlone_mono (request : RestoreRequest) {rs rs' : List Reply} (h : rs <+: rs') :
    runAlone request rs <+: runAlone request rs' := by
  obtain ⟨rest, rfl⟩ := h
  rw [runAlone_append]
  exact List.prefix_append _ _

theorem tidy_of_mem_trace {settings : GitopsSettings} {workDir : String} {es : List Event}
    {t : Orchestrator} (ht : t ∈ (Orchestrator.init settings workDir).trace es) : t.workdir.Tidy :=
  (trace_chain (I := fun s => s.workdir.Tidy) (P := fun _ _ => True) (R := fun _ _ => True)
    (fun _ e hs _ => ⟨step_tidy e hs, trivial⟩) (s := Orchestrator.init settings workDir)
    ⟨rfl, fun h => by cases h⟩ (fun _ _ => trivial)).2 t ht

theorem step_settings (e : Event) : (s.step e).settings = s.settings ∧ (s.step e).workDir = s.workDir := by
  cases e with
  | startRestore _ validation => cases validation <;> exact ⟨rfl, rfl⟩
  | cancelRestore => rw [step_cancelRestore]; exact ⟨rfl, rfl⟩
  | resume => simp
  | _ => exact ⟨rfl, rfl⟩

theorem run_settings : ∀ {s : Orchestrator} (es : List Event),
    (s.run es).settings = s.settings ∧ (s.run es).workDir = s.workDir
  | _, [] => ⟨rfl, rfl⟩
  | s, e :: es => ⟨(run_settings (s := s.step e) es).1.trans (step_settings e).1,
      (run_settings (s := s.step e) es).2.trans (step_settings e).2⟩

/-- A run in which restore `q` records no failure: it records none at any earlier point. -/
theorem alone_of_initial (settings : GitopsSettings) (workDir : String) {rs rs' : List Reply}
    (hpre : rs <+: rs')
    (hok : ((Orchestrator.init settings workDir).run (runAlone q rs')).restoreHistory.map
      (·.success) = [true]) :
    Alone q ((Orchestrator.init settings workDir).run (runAlone q rs)) := by
  refine Alone.run settings workDir rs fun res hres => ?_
  obtain ⟨rest, hrest⟩ := runAlone_mono q hpre
  have hmem : res ∈ ((Orchestrator.init settings workDir).run (runAlone q rs')).restoreHistory := by
    rw [← hrest, run_append]
    exact (restoreHistory_prefix_run rest).subset hres
  have := List.mem_map_of_mem (·.success) hmem
  rw [hok, List.mem_singleton] at this
  exact this

/-- Restore `q'`, of another id, started after restore `q` ran alone: `q` is untouched. -/
theorem Alone.slotSim_spawn (h : Alone q u) {q' : RestoreRequest} (hid : q'.restoreId ≠ q.restoreId) :
    SlotSim (u.spawn q') 0 u 0 where
  started := by simp [h.started]
  request := by simp [h.started]
  progress := by simp [h.started]
  calls := by simp [h.started]
  task := by simp [h.started, h.own]
  own := h.own
  active := by
    rw [h.request, spawn_activeRestores, Function.update_apply, if_neg (Ne.symm hid)]
    cases ha : u.activeRestores q.restoreId with
    | none => rfl
    | some ref => rw [h.activeOwn ha]; rfl
  activeOwn ha := h.activeOwn (by rwa [h.request] at ha)
  history := by
    rw [spawn_restoreHistory, List.filter_eq_self]
    intro res hres
    simp [h.results res hres, h.request]
  clock := rfl
  settings := rfl
  workDir := rfl

/-- Restore `q'` started on the orchestrator where `q` ran alone is restore `1` there, and it is
restore `0` when started alone. -/
theorem Alone.slotSim_spawned (h : Alone q u) (settings : GitopsSettings) (workDir : String)
    (hs : u.settings = settings ∧ u.workDir = workDir) {q' : RestoreRequest}
    (hid : q'.restoreId ≠ q.restoreId) :
    SlotSim (u.spawn q') 1 ((Orchestrator.init settings workDir).spawn q') 0 where
  started := by simp [h.started, Orchestrator.init]
  request := by simp [h.started, Orchestrator.init]
  progress := by simp [h.started, h.clock, Orchestrator.init]
  calls := by simp [h.started, Orchestrator.init]
  task := by simp [h.started, Orchestrator.init, TaskState.relabel]
  own := by simp [Orchestrator.init, TaskState.relabel]
  active := by simp [h.started, Orchestrator.init]
  activeOwn ha := by simpa [Orchestrator.init] using ha.symm
  history := by
    simp only [spawn_restoreHistory, spawn_request, if_pos rfl, Orchestrator.init]
    rw [List.filter_eq_nil_iff]
    intro res hres
    simp [h.results res hres, hid.symm]
  clock := h.clock
  settings := hs.1
  workDir := hs.2

/-- Slots `k` and `k'` of `t` are the restores of `a` and of `b` alone, and the clone is in place
exactly while one of the two tasks holds it. -/
structure Pair (t : Orchestrator) (k : Nat) (a : Orchestrator) (k' : Nat) (b : Orchestrator) :
    Prop where
  fst : SlotSim t k a 0
  snd : SlotSim t k' b 0
  ne : k ≠ k'
  cloned : t.workdir.cloned = ((t.restores k).task.holdsClone || (t.restores k').task.holdsClone)

variable {a b : Orchestrator} {k k' : Nat}

theorem Pair.symm (h : Pair t k a k' b) : Pair t k' b k a :=
  ⟨h.snd, h.fst, h.ne.symm, by rw [h.cloned, Bool.or_comm]⟩

/-- When one of the tasks is in its window, the other holds no clone. -/
theorem holdsClone_false_of_sep {k k' : Nat}
    (hsep : ¬ ((t.restores k).task.inWindow = true ∧ (t.restores k').task.inWindow = true))
    (hw : (t.restores k).task.inWindow = true) : (t.restores k').task.holdsClone = false := by
  cases hh : (t.restores k').task.holdsClone
  · rfl
  · exact absurd ⟨hw, TaskState.inWindow_of_holdsClone hh⟩ hsep

/-- A step of the task of slot `k`, when the two windows do not overlap, is the step of `a`'s task
alone and leaves `b`'s restore alone. -/
theorem Pair.step {qa qb : RestoreRequest} (h : Pair t k a k' b) (hinv : Inv t)
    (htidy : t.workdir.Tidy) (ha : Alone qa a) (reply : Reply) (ha' : Alone qa (a.resume 0 reply))
    (hb : Alone qb b) (hid : qa.restoreId ≠ qb.restoreId)
    (hsep : ¬ ((t.restores k).task.inWindow = true ∧ (t.restores k').task.inWindow = true)) :
    Pair (t.resume k reply) k (a.resume 0 reply) k' b := by
  have htask := h.fst.task
  have hhold : (t.restores k).task.holdsClone = (a.restores 0).task.holdsClone := by
    rw [htask, TaskState.holdsClone_relabel]
  have hwin : (a.restores 0).task.inWindow = true → (t.restores k).task.inWindow = true := by
    rw [htask, TaskState.inWindow_relabel]; exact id
  obtain ⟨hsim, hwd⟩ := h.fst.resume htidy ha.tidy (fun hw => by
    rw [h.cloned, hhold, holdsClone_false_of_sep hsep (hwin hw), ha.cloned, Bool.or_false]) reply
  have hother : ((t.resume k reply).restores k').task = (t.restores k').task :=
    resume_task_of_ne reply h.ne.symm
  have hhold' : ((t.resume k reply).restores k).task.holdsClone =
      ((a.resume 0 reply).restores 0).task.holdsClone := by
    rw [hsim.task, TaskState.holdsClone_relabel]
  refine ⟨hsim, h.snd.resume_other hinv h.ne.symm ?_ reply, h.ne, ?_⟩
  · rw [h.fst.request, ha.request, hb.request]; exact hid
  · rw [hother, hhold', ← ha'.cloned]
    rcases hwd with ⟨ht', ha''⟩ | ⟨hw, hwd⟩
    · rw [ht', ha'', h.cloned, hhold, ha.cloned]
    · rw [hwd, holdsClone_false_of_sep hsep (hwin hw), Bool.or_false]

section Interleaved

variable (settings : GitopsSettings) (workDir : String) (qa qb : RestoreRequest) (ra : List Reply)
  (steps : List (Bool × Reply))

/-- Every prefix of an interleaving whose windows do not overlap relates the two tasks to the two
restores alone on the replies they were given so far. -/
theorem twoRestores_pair (hid : qa.restoreId ≠ qb.restoreId)
    (hA : ((Orchestrator.init settings workDir).run (runAlone qa (ra ++ repliesOf true steps))
      |>.restoreHistory.map (·.success)) = [true])
    (hB : ((Orchestrator.init settings workDir).run (runAlone qb (repliesOf false steps))
      |>.restoreHistory.map (·.success)) = [true])
    (hsep : ∀ t ∈ (Orchestrator.init settings workDir).trace (twoRestores qa qb ra steps),
      ¬ ((t.restores 0).task.inWindow = true ∧ (t.restores 1).task.inWindow = true))
    (pre : List (Bool × Reply)) (hpre : pre <+: steps) :
    Pair ((Orchestrator.init settings workDir).run (twoRestores qa qb ra pre)) 0
      ((Orchestrator.init settings workDir).run (runAlone qa (ra ++ repliesOf true pre))) 1
      ((Orchestrator.init settings workDir).run (runAlone qb (repliesOf false pre))) := by
  have hA' : ∀ {rs}, rs <+: ra ++ repliesOf true steps →
      Alone qa ((Orchestrator.init settings workDir).run (runAlone qa rs)) :=
    fun hrs => alone_of_initial settings workDir hrs hA
  have hB' : ∀ {rs}, rs <+: repliesOf false steps →
      Alone qb ((Orchestrator.init settings workDir).run (runAlone qb rs)) :=
    fun hrs => alone_of_initial settings workDir hrs hB
  induction pre using List.reverseRecOn with
  | nil =>
      have h0 : Alone qa ((Orchestrator.init settings workDir).run (runAlone qa ra)) :=
        hA' (List.prefix_append _ _)
      have hrun : (Orchestrator.init settings workDir).run (twoRestores qa qb ra []) =
          ((Orchestrator.init settings workDir).run (runAlone qa ra)).spawn qb := by
        simp [twoRestores, run_append]
      simp only [repliesOf, List.filter_nil, List.map_nil, List.append_nil, hrun]
      refine ⟨h0.slotSim_spawn (Ne.symm hid),
        h0.slotSim_spawned settings workDir (run_settings _) (Ne.symm hid), Nat.zero_ne_one, ?_⟩
      simp [h0.started, h0.cloned, TaskState.holdsClone]
  | append_singleton pre p ih =>
      have hpre' : pre <+: steps := (List.prefix_append pre [p]).trans hpre
      have h := ih hpre'
      have hmem := run_initial_mem_trace (s := Orchestrator.init settings workDir)
        (twoRestores_mono qa qb ra hpre')
      have ha := hA' ((List.prefix_append_right_inj ra).mpr (repliesOf_mono true hpre'))
      have hb := hB' (repliesOf_mono false hpre')
      have ha' := hA' ((List.prefix_append_right_inj ra).mpr (repliesOf_mono true hpre))
      have hb' := hB' (repliesOf_mono false hpre)
      obtain ⟨first, r⟩ := p
      rw [twoRestores_append, run_append] at *
      cases first <;> simp only [repliesOf_append, Bool.false_eq_true, Bool.true_eq_false, if_false, if_true,
        List.append_nil, ← List.append_assoc, runAlone_snoc, run_append, run_cons, run_nil,
        step_resume] at ha' hb' ⊢
      · exact (h.symm.step (Inv.of_mem_trace hmem) (tidy_of_mem_trace hmem) hb r hb' ha
          (Ne.symm hid) fun hw => hsep _ hmem ⟨hw.2, hw.1⟩).symm
      · exact h.step (Inv.of_mem_trace hmem) (tidy_of_mem_trace hmem) ha r ha' hb hid
          (hsep _ hmem)

/-- **Two restores on one orchestrator.**  Restores `qa` and `qb` have distinct ids; `qa` is
started and stepped on `ra`, then `qb` is started, then the two tasks are stepped in any order
`steps`.  Suppose each restore succeeds when run alone on the replies it gets, and no state of the
run has both tasks in their windows.  Then after every prefix of `steps` each restore is where it
is when run alone on the replies it got so far: the same progress object, point in the code and
calls, and the same results under its id. -/
theorem two_restores_independent (hid : qa.restoreId ≠ qb.restoreId)
    (hA : ((Orchestrator.init settings workDir).run (runAlone qa (ra ++ repliesOf true steps))
      |>.restoreHistory.map (·.success)) = [true])
    (hB : ((Orchestrator.init settings workDir).run (runAlone qb (repliesOf false steps))
      |>.restoreHistory.map (·.success)) = [true])
    (hsep : ∀ t ∈ (Orchestrator.init settings workDir).trace (twoRestores qa qb ra steps),
      ¬ ((t.restores 0).task.inWindow = true ∧ (t.restores 1).task.inWindow = true)) (n : Nat) :
    SlotSim ((Orchestrator.init settings workDir).run (twoRestores qa qb ra (steps.take n))) 0
        ((Orchestrator.init settings workDir).run
          (runAlone qa (ra ++ repliesOf true (steps.take n)))) 0 ∧
      SlotSim ((Orchestrator.init settings workDir).run (twoRestores qa qb ra (steps.take n))) 1
        ((Orchestrator.init settings workDir).run (runAlone qb (repliesOf false (steps.take n)))) 0 :=
  have hpre : steps.take n <+: steps := List.take_prefix n steps
  have h := twoRestores_pair settings workDir qa qb ra steps hid hA hB hsep _ hpre
  ⟨h.fst, h.snd⟩

end Interleaved

/-- A second restore, under the id `"s"`. -/
def requestS : RestoreRequest :=
  { requestR with restoreId := "s" }

/-- Restore `"s"` runs to the end on the replies of a successful restore. -/
def sequentialSteps : List (Bool × Reply) :=
  (successReplies [] "abc").map (false, ·)

set_option maxRecDepth 100000 in
/-- Restore `"r"` runs to the end, then restore `"s"` does; the windows do not overlap. -/
theorem two_restores_independent_sequential :
    requestR.restoreId ≠ requestS.restoreId ∧
      ((Orchestrator.init {} "/w").run
        (runAlone requestR (successReplies [] "abc" ++ repliesOf true sequentialSteps))
        |>.restoreHistory.map (·.success)) = [true] ∧
      ((Orchestrator.init {} "/w").run (runAlone requestS (repliesOf false sequentialSteps))
        |>.restoreHistory.map (·.success)) = [true] ∧
      (∀ t ∈ (Orchestrator.init {} "/w").trace
          (twoRestores requestR requestS (successReplies [] "abc") sequentialSteps),
        ¬ ((t.restores 0).task.inWindow = true ∧ (t.restores 1).task.inWindow = true)) ∧
      SlotSim ((Orchestrator.init {} "/w").run (twoRestores requestR requestS
          (successReplies [] "abc") (sequentialSteps.take 10))) 1
        ((Orchestrator.init {} "/w").run (runAlone requestS
          (repliesOf false (sequentialSteps.take 10)))) 0 :=
  have hid : requestR.restoreId ≠ requestS.restoreId := by decide
  have hA : ((Orchestrator.init {} "/w").run
      (runAlone requestR (successReplies [] "abc" ++ repliesOf true sequentialSteps))
      |>.restoreHistory.map (·.success)) = [true] := by decide
  have hB : ((Orchestrator.init {} "/w").run (runAlone requestS (repliesOf false sequentialSteps))
      |>.restoreHistory.map (·.success)) = [true] := by decide
  have hsep : ∀ t ∈ (Orchestrator.init {} "/w").trace
      (twoRestores requestR requestS (successReplies [] "abc") sequentialSteps),
      ¬ ((t.restores 0).task.inWindow = true ∧ (t.restores 1).task.inWindow = true) := by decide
  ⟨hid, hA, hB, hsep, (two_restores_independent {} "/w" requestR requestS (successReplies [] "abc")
    sequentialSteps hid hA hB hsep 10).2⟩

/-- Restore `"r"` runs through its clone; then restore `"s"` starts and runs all its steps, cloning
while the clone of `"r"` is in place; then `"r"` runs to the end.  Each gets the replies of a
successful restore. -/
def cloneWhileCloned : List (Bool × Reply) :=
  (successReplies [] "abc").map (false, ·) ++ ((successReplies [] "abc").drop 7).map (true, ·)

set_option maxRecDepth 100000 in
/-- On `cloneWhileCloned` restore `"s"` fails on the existing clone, although alone on the same
replies it succeeds, as `"r"` does. -/
theorem cloneWhileCloned_fails :
    ((Orchestrator.init {} "/w").run (twoRestores requestR requestS
        ((successReplies [] "abc").take 7) cloneWhileCloned)
      |>.restoreHistory.map fun res => (res.restoreId, res.success, res.errorSummary)) =
        [("s", false, some
          "fatal: destination path '/w/gitops_repo' already exists and is not an empty directory."),
         ("r", true, none)] ∧
      ((Orchestrator.init {} "/w").run (runAlone requestS (repliesOf false cloneWhileCloned))
        |>.restoreHistory.map (·.success)) = [true] ∧
      ((Orchestrator.init {} "/w").run (runAlone requestR
          ((successReplies [] "abc").take 7 ++ repliesOf true cloneWhileCloned))
        |>.restoreHistory.map (·.success)) = [true] := by
  decide

end Orchestrator

end Restore
end Tkkube
