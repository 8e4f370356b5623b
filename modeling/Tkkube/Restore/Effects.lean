import Tkkube.Restore.Bookkeeping

/-!
# What a restore does to the outside world

The external calls each task records, along every run.  Two facts hold at every reachable state
(`CallsInv`):

* every commit a task makes copies no file: nothing ever writes `generated_dir`, and the commit
  takes its files from there;
* a task still in Planning or Validation has made only the backup-metadata read and the four checks.

From the second, `precheck_failure`: a restore whose Planning or Validation raises has touched
neither the repository nor the cluster, and records one failed result carrying the exception's
message.  The same argument for the calls made before Cleanup (`CallsBefore`) gives
`failure_before_cleanup`: a phase that raises before Cleanup leaves the scratch directory as it was,
and its task never cleans up.  The other results here are runs that the code gets wrong: the commit of a successful
restore holds none of the manifests Preparation built, a dry run commits, pushes, syncs and cleans
up, and conflicts outside a cluster rebuild only become warnings.
-/

namespace Tkkube
namespace Restore

theorem awaitedCall_isPrecheck (ctx : Ctx) (wd : Workdir) {pc : Pc} (h : pc.stepsDone ≤ 1) :
    (awaitedCall ctx wd pc).isPrecheck = true := by
  cases pc <;> simp_all [Pc.stepsDone, awaitedCall, ExtCall.isPrecheck]

theorem awaitedCall_commit (ctx : Ctx) {wd : Workdir} (hwd : wd.generated = []) (pc : Pc)
    {files : List String} {msg : String}
    (h : awaitedCall ctx wd pc = .commitGitopsManifests files msg) : files = [] := by
  cases pc <;> simp_all [awaitedCall, manifestFiles]

namespace Orchestrator

variable {s : Orchestrator}

/-- What the calls a task has made say about it. -/
structure CallsInv (s : Orchestrator) : Prop where
  commitEmpty : ∀ i, ∀ c ∈ (s.restores i).calls, ∀ files msg,
    c = .commitGitopsManifests files msg → files = []
  spawned : ∀ {i}, i < s.started → (s.restores i).task = .spawned → (s.restores i).calls = []
  prechecks : ∀ {i ref pc hr}, i < s.started → (s.restores i).task = .suspended ref pc hr →
    pc.stepsDone ≤ 1 → ∀ c ∈ (s.restores i).calls, c.isPrecheck = true

/-- Every task suspended at most `n` phases in has made only calls that satisfy `P`. -/
def CallsBefore (n : Nat) (P : ExtCall → Prop) (s : Orchestrator) : Prop :=
  ∀ {i ref pc hr}, i < s.started → (s.restores i).task = .suspended ref pc hr → pc.stepsDone ≤ n →
    ∀ c ∈ (s.restores i).calls, P c

section CallsBefore

variable {n : Nat} {P : ExtCall → Prop}

theorem CallsBefore.runSegment (hb : CallsBefore n P s) {k ref : Nat} {hr : List (String × Value)}
    {m : TaskM Next} {pc : Pc} {ctx : Ctx} (hP : ∀ wd, pc.stepsDone ≤ n → P (awaitedCall ctx wd pc))
    (hspec : SegmentSpec ctx pc (s.frameOf k ref hr) (m.run (s.frameOf k ref hr)).1
      (m.run (s.frameOf k ref hr)).2)
    (hold : pc.stepsDone ≤ n → ∀ c ∈ (s.restores k).calls, P c) :
    CallsBefore n P (s.runSegment k ref hr m) := by
  intro i ref' pc' hr' hi ht hpc' c hcm
  by_cases hik : i = k
  · subst hik
    rcases runSegment_task_self (s := s) i ref hr m with ⟨pc'', hres, h⟩ | h <;> rw [h] at ht <;> cases ht
    have hnext := hspec.next
    rw [hres] at hnext
    have hle : pc.stepsDone ≤ n := by simp only [StepsAfter] at hnext; omega
    rw [runSegment_calls, if_pos rfl] at hcm
    rcases hspec.calls with h | h <;> rw [h] at hcm
    · exact hold hle c hcm
    · rcases List.mem_append.mp hcm with h' | h'
      · exact hold hle c h'
      · rw [List.mem_singleton.mp h']; exact hP _ hle
  · rw [runSegment_task_of_ne hik] at ht
    rw [runSegment_calls, if_neg hik] at hcm
    exact hb (by simpa using hi) ht hpc' c hcm

theorem CallsBefore.withTask_crashed (hb : CallsBefore n P s) (k : Nat) (error : String) :
    CallsBefore n P (s.withTask k (.crashed error)) := by
  intro i ref pc hr hi ht
  simp only [withTask_task] at ht
  split at ht
  · cases ht
  · simp only [withTask_calls]; exact hb hi ht

theorem CallsBefore.spawn (hb : CallsBefore n P s) (request : RestoreRequest) :
    CallsBefore n P (s.spawn request) := by
  intro i ref pc hr hi ht
  simp only [spawn_started] at hi; simp only [spawn_task] at ht; simp only [spawn_calls]
  split
  · rw [if_pos ‹_›] at ht; cases ht
  · rw [if_neg ‹_›] at ht; exact hb (by omega) ht

end CallsBefore

theorem CallsInv.runSegment (hc : CallsInv s) (hgen : s.workdir.generated = []) {k ref : Nat}
    {hr : List (String × Value)} {m : TaskM Next} {pc : Pc} {ctx : Ctx}
    (hspec : SegmentSpec ctx pc (s.frameOf k ref hr) (m.run (s.frameOf k ref hr)).1
      (m.run (s.frameOf k ref hr)).2)
    (hold : pc.stepsDone ≤ 1 → ∀ c ∈ (s.restores k).calls, c.isPrecheck = true) :
    CallsInv (s.runSegment k ref hr m) := by
  have hcalls : ∀ c ∈ (m.run (s.frameOf k ref hr)).2.calls,
      c ∈ (s.restores k).calls ∨ c = awaitedCall ctx s.workdir pc := by
    intro c hcm
    rcases hspec.calls with h | h <;> rw [h] at hcm
    · exact .inl hcm
    · simpa using hcm
  refine ⟨fun i c hcm files msg hc' => ?_, fun {i} hi ht => ?_, fun {i ref' pc' hr'} hi ht hpc' => ?_⟩
  · rw [runSegment_calls] at hcm
    split at hcm
    · rename_i hik; subst hik
      rcases hcalls c hcm with h | rfl
      · exact hc.commitEmpty _ c h files msg hc'
      · exact awaitedCall_commit ctx hgen pc hc'
    · exact hc.commitEmpty i c hcm files msg hc'
  · by_cases hik : i = k
    · subst hik
      rcases runSegment_task_self (s := s) i ref hr m with
        ⟨_, -, h⟩ | h <;> rw [h] at ht <;> cases ht
    · rw [runSegment_task_of_ne hik] at ht
      rw [runSegment_calls, if_neg hik]
      exact hc.spawned (by simpa using hi) ht
  · exact CallsBefore.runSegment (P := (·.isPrecheck = true)) hc.prechecks
      (fun wd => awaitedCall_isPrecheck ctx wd) hspec hold hi ht hpc'

theorem CallsInv.withTask_crashed (hc : CallsInv s) (k : Nat) (error : String) :
    CallsInv (s.withTask k (.crashed error)) := by
  refine ⟨fun i c hcm => hc.commitEmpty i c (by simpa using hcm), fun {i} hi ht => ?_,
    fun hi ht => CallsBefore.withTask_crashed (P := (·.isPrecheck = true)) hc.prechecks k error hi ht⟩
  simp only [withTask_task] at ht
  split at ht
  · cases ht
  · simp only [withTask_calls]; exact hc.spawned hi ht

theorem CallsInv.resume (hs : Inv s) (hc : CallsInv s) (k : Nat) (reply : Reply) :
    CallsInv (s.resume k reply) := by
  rcases resume_cases (s := s) k reply with e | ⟨-, -, -, e⟩ | ⟨ref, hr, m, hk, hcase, e⟩ <;> rw [e]
  · exact hc
  · exact hc.withTask_crashed k _
  · rcases hcase with ⟨ht, -, rfl, rfl⟩ | ⟨pc, ht, rfl⟩
    · refine hc.runSegment hs.noGenerated (phasePlanningStart_spec (s.ctxOf k) _) (fun _ c h => ?_)
      rw [hc.spawned hk ht] at h; cases h
    · exact hc.runSegment hs.noGenerated (resumeAt_spec _ pc reply _ rfl) (hc.prechecks hk ht)

theorem CallsInv.spawn (hc : CallsInv s) (request : RestoreRequest) : CallsInv (s.spawn request) := by
  refine ⟨fun i c hcm => ?_, fun {i} hi ht => ?_,
    fun hi ht => CallsBefore.spawn (P := (·.isPrecheck = true)) hc.prechecks request hi ht⟩
  · simp only [spawn_calls] at hcm
    split at hcm
    · cases hcm
    · exact hc.commitEmpty i c hcm
  simp only [spawn_started] at hi; simp only [spawn_task] at ht; simp only [spawn_calls]
  split
  · rfl
  · rw [if_neg ‹_›] at ht; exact hc.spawned (by omega) ht

theorem CallsInv.step (hs : Inv s) (hc : CallsInv s) (e : Event) : CallsInv (s.step e) := by
  cases e with
  | startRestore request validation =>
    cases validation
    · exact hc.spawn request
    · exact hc
  | cancelRestore => rw [step_cancelRestore]; exact ⟨hc.commitEmpty, hc.spawned, hc.prechecks⟩
  | getRestoreStatus => exact hc
  | resume k reply => exact hc.resume hs k reply
  | tick => exact ⟨hc.commitEmpty, hc.spawned, hc.prechecks⟩

/-- Every state of every run from a fresh orchestrator satisfies both invariants. -/
theorem CallsInv.of_mem_trace {settings : GitopsSettings} {workDir : String} {es : List Event}
    {t : Orchestrator} (ht : t ∈ (Orchestrator.init settings workDir).trace es) :
    Inv t ∧ CallsInv t :=
  (trace_chain (P := fun _ _ => True) (R := fun _ _ => True) (I := fun t => Inv t ∧ CallsInv t)
    (fun _ e h _ => ⟨⟨h.1.step e, h.2.step h.1 e⟩, trivial⟩)
    ⟨Inv.init settings workDir, (fun _ _ h => by cases h), fun hi => absurd hi (Nat.not_lt_zero _),
      fun hi => absurd hi (Nat.not_lt_zero _)⟩ (fun _ _ => trivial)).2 t ht

section CallsBefore

variable {n : Nat} {P : ExtCall → Prop}

theorem CallsBefore.resume (hc : CallsInv s) (hb : CallsBefore n P s)
    (hP : ∀ ctx wd pc, pc.stepsDone ≤ n → P (awaitedCall ctx wd pc)) (k : Nat) (reply : Reply) :
    CallsBefore n P (s.resume k reply) := by
  rcases resume_cases (s := s) k reply with e | ⟨-, -, -, e⟩ | ⟨ref, hr, m, hk, hcase, e⟩ <;> rw [e]
  · exact hb
  · exact hb.withTask_crashed k _
  · rcases hcase with ⟨ht, -, rfl, rfl⟩ | ⟨pc, ht, rfl⟩
    · refine hb.runSegment (fun wd => hP _ wd _) (phasePlanningStart_spec (s.ctxOf k) _)
        (fun _ c h => ?_)
      rw [hc.spawned hk ht] at h; cases h
    · exact hb.runSegment (fun wd => hP _ wd _) (resumeAt_spec _ pc reply _ rfl) (hb hk ht)

theorem CallsBefore.step (hc : CallsInv s) (hb : CallsBefore n P s)
    (hP : ∀ ctx wd pc, pc.stepsDone ≤ n → P (awaitedCall ctx wd pc)) :
    ∀ e, CallsBefore n P (s.step e)
  | .startRestore request none => hb.spawn request
  | .startRestore _ (some _) => hb
  | .cancelRestore _ => by rw [step_cancelRestore]; exact hb
  | .getRestoreStatus _ => hb
  | .resume k reply => hb.resume hc hP k reply
  | .tick => hb

/-- When every call awaited at most `n` phases in satisfies `P`, then along every run every task
suspended at most `n` phases in has made only calls that satisfy `P`. -/
theorem CallsBefore.of_mem_trace (hP : ∀ ctx wd pc, pc.stepsDone ≤ n → P (awaitedCall ctx wd pc))
    {settings : GitopsSettings} {workDir : String} {es : List Event} {t : Orchestrator}
    (ht : t ∈ (Orchestrator.init settings workDir).trace es) : CallsBefore n P t :=
  (trace_chain (P := fun s _ => CallsInv s) (R := fun _ _ => True) (I := CallsBefore n P)
    (fun _ e hb hc => ⟨hb.step hc hP e, trivial⟩) (fun hi => absurd hi (Nat.not_lt_zero _))
    (fun _ hq => (CallsInv.of_mem_trace (mem_trace_of_mem_transitions hq)).2)).2 t ht

end CallsBefore

theorem resume_calls_of_ne {k i : Nat} (reply : Reply) (h : i ≠ k) :
    ((s.resume k reply).restores i).calls = (s.restores i).calls := by
  rcases resume_cases (s := s) k reply with e | ⟨-, -, -, e⟩ | ⟨_, _, _, -, -, e⟩ <;> rw [e]
  · simp
  · rw [runSegment_calls, if_neg h]

/-- A task that has ended makes no more calls. -/
theorem run_calls_of_finished {k : Nat} : ∀ {s : Orchestrator} (es : List Event), k < s.started →
    (s.restores k).task = .finished →
    ((s.run es).restores k).calls = (s.restores k).calls ∧ ((s.run es).restores k).task = .finished
  | _, [], _, ht => ⟨rfl, ht⟩
  | s, e :: es, hk, ht => by
      have hstep : ((s.step e).restores k).calls = (s.restores k).calls ∧
          ((s.step e).restores k).task = .finished := by
        cases e with
        | startRestore _ validation => cases validation <;> simp [Nat.ne_of_lt hk, ht]
        | resume j reply =>
          by_cases hjk : k = j
          · subst hjk; simp [resume_finished reply ht, ht]
          · simp [resume_calls_of_ne reply hjk, resume_task_of_ne reply hjk, ht]
        | cancelRestore => simp [step_cancelRestore, ht]
        | _ => simp [ht]
      obtain ⟨hcalls, htask⟩ := run_calls_of_finished (s := s.step e) es
        (hk.trans_le (step_started e)) hstep.2
      exact ⟨hcalls.trans hstep.1, htask⟩

theorem resumeAt_metadata_none (ctx : Ctx) (f : Frame) :
    ((resumeAt ctx .loadBackupMetadata (.metadata none)).run f).1 =
      .error ("Backup " ++ ctx.request.backupId ++ " not found or inaccessible") :=
  rfl

/-- **Planning and Validation fail cleanly.**  At a reachable state, let task `k` be suspended at
a call of Planning or Validation and let the segment raise `msg`.  The step leaves the scratch
directory alone and changes no progress object but the one the task holds; the task has made, and
ever makes, only non-mutating calls; one result is appended, failed, carrying `msg`; and when the
backup metadata was not found, `msg` names the backup. -/
theorem precheck_failure {settings : GitopsSettings} {workDir : String} {es : List Event}
    {t : Orchestrator} (ht : t ∈ (Orchestrator.init settings workDir).trace es)
    {k ref : Nat} {pc : Pc} {hr : List (String × Value)} {reply : Reply} {msg : String}
    (hk : k < t.started) (htask : (t.restores k).task = .suspended ref pc hr) (hpc : pc.stepsDone ≤ 1)
    (hraise : ((resumeAt (t.ctxOf k) pc reply).run (t.frameOf k ref hr)).1 = .error msg)
    (post : List Event) :
    (t.resume k reply).workdir = t.workdir ∧
      (∀ i ≠ ref, ((t.resume k reply).restores i).progress = (t.restores i).progress) ∧
      (∀ c ∈ (((t.resume k reply).run post).restores k).calls, c.mutating = false) ∧
      (∃ res, (t.resume k reply).restoreHistory = t.restoreHistory ++ [res] ∧
        res.restoreId = (t.restores k).request.restoreId ∧ res.success = false ∧
        res.phase = .failed ∧ res.errorSummary = some msg) ∧
      (pc = .loadBackupMetadata → reply = .metadata none →
        msg = "Backup " ++ (t.restores k).request.backupId ++ " not found or inaccessible") := by
  obtain ⟨hinv, hc⟩ := CallsInv.of_mem_trace ht
  have hspec := resumeAt_spec (t.ctxOf k) pc reply (t.frameOf k ref hr) rfl
  rw [resume_suspended reply hk htask]
  have hend : ((t.runSegment k ref hr (resumeAt (t.ctxOf k) pc reply)).restores k).task = .finished := by
    rcases runSegment_task_self (s := t) k ref hr (resumeAt (t.ctxOf k) pc reply) with ⟨_, hres, -⟩ | h
    · rw [hraise] at hres; cases hres
    · exact h
  refine ⟨?_, fun i hi => runSegment_progress_of_ne hi, fun c hcm => ?_, ?_, fun hpc' hreply => ?_⟩
  · rw [runSegment_workdir]
    rcases hspec.workdir with h | ⟨rfl, -⟩ | ⟨rfl | rfl, -⟩
    · exact h
    all_goals simp [Pc.stepsDone] at hpc
  · rw [(run_calls_of_finished post (by simpa using hk) hend).1, runSegment_calls, if_pos rfl] at hcm
    apply ExtCall.not_mutating_of_isPrecheck
    rcases hspec.calls with h | h <;> rw [h] at hcm
    · exact hc.prechecks hk htask hpc c hcm
    · rcases List.mem_append.mp hcm with h' | h'
      · exact hc.prechecks hk htask hpc c h'
      · rw [List.mem_singleton.mp h']; exact awaitedCall_isPrecheck _ _ hpc
  · rw [runSegment_eq]
    generalize hout : (resumeAt (t.ctxOf k) pc reply).run (t.frameOf k ref hr) = out at hraise
    obtain ⟨res, f⟩ := out
    cases hraise
    exact ⟨_, terminate_restoreHistory, by simp [assembleResult], rfl, rfl, rfl⟩
  · subst hpc' hreply
    rw [resumeAt_metadata_none] at hraise
    cases hraise; rfl

theorem precheck_failure_missingBackup :
    let es : List Event := [.startRestore requestR none, .resume 0 .done]
    let t := (Orchestrator.init {} "/w").run es
    (t ∈ (Orchestrator.init {} "/w").trace es ∧ 0 < t.started ∧
      (t.restores 0).task = .suspended 0 .loadBackupMetadata [] ∧ Pc.loadBackupMetadata.stepsDone ≤ 1 ∧
      ((resumeAt (t.ctxOf 0) .loadBackupMetadata (.metadata none)).run (t.frameOf 0 0 [])).1 =
        .error "Backup b not found or inaccessible") ∧
    ((t.resume 0 (.metadata none)).workdir = t.workdir ∧
      (∀ i ≠ 0, ((t.resume 0 (.metadata none)).restores i).progress = (t.restores i).progress) ∧
      (∀ c ∈ (((t.resume 0 (.metadata none)).run []).restores 0).calls, c.mutating = false) ∧
      (∃ res, (t.resume 0 (.metadata none)).restoreHistory = t.restoreHistory ++ [res] ∧
        res.restoreId = (t.restores 0).request.restoreId ∧ res.success = false ∧
        res.phase = .failed ∧ res.errorSummary = some "Backup b not found or inaccessible") ∧
      (Pc.loadBackupMetadata = .loadBackupMetadata → Reply.metadata none = .metadata none →
        "Backup b not found or inaccessible" =
          "Backup " ++ (t.restores 0).request.backupId ++ " not found or inaccessible")) :=
  have ht := run_mem_trace (Orchestrator.init {} "/w") [.startRestore requestR none, .resume 0 .done]
  have h1 : _ := by decide
  have h2 : _ := rfl
  have h3 : _ := by decide
  have h4 : _ := rfl
  ⟨⟨ht, h1, h2, h3, h4⟩, precheck_failure ht h1 h2 h3 h4 []⟩

set_option maxRecDepth 100000 in
/-- The object a task holds need not be its restore's own.  On `cancelRestartSchedule` before its
last step, task `0` holds the object of restore `1`, started again under the same id; the Planning
of task `0` then fails on the missing backup and sets restore `1`'s object to Failed, while
restore `0`'s own object stays at Planning with nothing recorded. -/
theorem precheck_failure_fails_restarted_record :
    let t := (Orchestrator.init {} "/w").run (cancelRestartSchedule.take 4)
    (t.restores 0).task = .suspended 1 .loadBackupMetadata [] ∧
      (t.restores 1).progress.phase = .planning ∧
      ((t.resume 0 (.metadata none)).restores 1).progress.phase = .failed ∧
      ((t.resume 0 (.metadata none)).restores 1).progress.errors = ["Backup b not found or inaccessible"] ∧
      ((t.resume 0 (.metadata none)).restores 0).progress.phase = .planning ∧
      ((t.resume 0 (.metadata none)).restores 0).progress.errors = [] :=
  ⟨rfl, by decide⟩

theorem awaitedCall_ne_cleanup (ctx : Ctx) (wd : Workdir) {pc : Pc} (h : pc.stepsDone ≤ 4)
    (id : String) : awaitedCall ctx wd pc ≠ .cleanupTemporaryNamespaces id := by
  cases pc <;> simp_all [Pc.stepsDone, awaitedCall]

/-- **A phase that raises before Cleanup skips Cleanup.**  At a reachable state, let task `k` be
suspended at a call before Cleanup and let the segment raise `msg`.  The progress object the task
holds moves to Failed with `msg` as its last error; but the step leaves the scratch directory as it
was, and the task, which has ended, never calls `cleanup_temporary_namespaces`: the `except` branch
of `_execute_restore` goes straight to the result. -/
theorem failure_before_cleanup {settings : GitopsSettings} {workDir : String} {es : List Event}
    {t : Orchestrator} (ht : t ∈ (Orchestrator.init settings workDir).trace es)
    {k ref : Nat} {pc : Pc} {hr : List (String × Value)} {reply : Reply} {msg : String}
    (hk : k < t.started) (htask : (t.restores k).task = .suspended ref pc hr) (hpc : pc.stepsDone ≤ 4)
    (hraise : ((resumeAt (t.ctxOf k) pc reply).run (t.frameOf k ref hr)).1 = .error msg)
    (post : List Event) :
    (t.resume k reply).workdir = t.workdir ∧
      (∀ c ∈ (((t.resume k reply).run post).restores k).calls, ∀ id,
        c ≠ .cleanupTemporaryNamespaces id) ∧
      ((t.resume k reply).restores ref).progress.phase = .failed ∧
      ((t.resume k reply).restores ref).progress.errors = (t.restores ref).progress.errors ++ [msg] := by
  have hb : CallsBefore 4 (fun c => ∀ id, c ≠ .cleanupTemporaryNamespaces id) t :=
    CallsBefore.of_mem_trace (fun ctx wd _ h => awaitedCall_ne_cleanup ctx wd h) ht
  rw [resume_suspended reply hk htask, runSegment_eq]
  generalize hout : (resumeAt (t.ctxOf k) pc reply).run (t.frameOf k ref hr) = out at hraise
  obtain ⟨res, f⟩ := out
  cases hraise
  have hspec := resumeAt_spec (t.ctxOf k) pc reply (t.frameOf k ref hr) hout
  have hend : (((t.writeBack k ref f).settle k ref (.error msg) f.progress f.healthReport).restores
      k).task = .finished := by simp [settle]
  refine ⟨by simpa [settle] using resumeAt_workdir_of_error hout, fun c hcm id => ?_, by simp [settle,
    failedProgress], by simp [settle, failedProgress, hspec.errors, frameOf]⟩
  rw [(run_calls_of_finished post (by simpa [settle] using hk) hend).1] at hcm
  simp only [settle, terminate_calls, writeBack_calls, if_pos rfl] at hcm
  rcases hspec.calls with h | h <;> rw [h] at hcm
  · exact hb hk htask hpc c hcm id
  · rcases List.mem_append.mp hcm with h' | h'
    · exact hb hk htask hpc c h' id
    · rw [List.mem_singleton.mp h']; exact awaitedCall_ne_cleanup _ _ hpc id

/-! ## Runs the code gets wrong -/

/-- A backup resource: the `production` namespace. -/
def namespaceResource : Value :=
  .dict [("apiVersion", .str "v1"), ("kind", .str "Namespace"),
    ("metadata", .dict [("name", .str "production")])]

/-- The replies to a restore whose every call succeeds: the backup store returns `resources` and
the commit `hexsha`. -/
def successReplies (resources : List Value) (hexsha : String) : List Reply :=
  [.done, .metadata (some ⟨[("namespaces", 1)]⟩), .flag true, .flag true, .flag true, .conflicts [],
    .done, .resources resources, .commit hexsha, .done, .done] ++ List.replicate syncDuration .done ++
    [.done, .health [], .done, .done]

/-- `request` started on a fresh orchestrator, its task stepped alone on `replies`. -/
def runAlone (request : RestoreRequest) (replies : List Reply) : List Event :=
  .startRestore request none :: replies.map (.resume 0)

set_option maxRecDepth 100000 in
/-- **The commit holds no manifest.**  Along every run every commit copies no file; and a restore
of a backup with one resource succeeds, although Preparation transformed that resource into a
manifest, with none of it in the commit. -/
theorem commit_misses_manifests :
    (∀ settings workDir es, ∀ t ∈ (Orchestrator.init settings workDir).trace es, ∀ k,
      ∀ c ∈ (t.restores k).calls, ∀ files msg, c = .commitGitopsManifests files msg → files = []) ∧
    ((Orchestrator.init {} "/w").run (runAlone requestR (successReplies [namespaceResource] "abc"))
        |>.restoreHistory.map (·.success)) = [true] ∧
      .commitGitopsManifests [] (commitMessage requestR) ∈
        (((Orchestrator.init {} "/w").run
          (runAlone requestR (successReplies [namespaceResource] "abc"))).restores 0).calls ∧
      (transformToGitops requestR 0 [namespaceResource]).toOption.map List.length = some 1 :=
  ⟨fun _ _ _ t ht k => (CallsInv.of_mem_trace ht).2.commitEmpty k, by decide, by decide, by decide⟩

set_option maxRecDepth 100000 in
/-- A dry run that succeeds clones, commits, pushes, triggers the sync and cleans up namespaces. -/
theorem dryRun_mutates :
    ((Orchestrator.init {} "/w").run
        (runAlone { requestR with dryRun := true } (successReplies [namespaceResource] "abc"))
        |>.restoreHistory.map (·.success)) = [true] ∧
      ((((Orchestrator.init {} "/w").run
          (runAlone { requestR with dryRun := true } (successReplies [namespaceResource] "abc"))).restores
          0).calls.filter (·.mutating)) =
        [.cloneGitopsRepo none "main" "/w/gitops_repo", .commitGitopsManifests [] (commitMessage requestR),
          .pushGitopsRepo, .triggerGitopsSync "dst", .cleanupTemporaryNamespaces "r"] := by
  decide

/-- The replies to a restore whose push is rejected after the commit. -/
def pushRejectedReplies : List Reply :=
  (successReplies [namespaceResource] "abc").take 9 ++ [.raise "rejected"]

set_option maxRecDepth 100000 in
/-- **A failed restore is not cleaned up.**  Along every run, a phase before Cleanup that raises
leaves the scratch directory as it was, and its task never cleans up temporary namespaces, while
the progress object moves to Failed with the exception as its last error.  A restore whose push is
rejected ends failed with the clone still in `work_dir` and no cleanup call made. -/
theorem failure_skips_cleanup :
    (∀ settings workDir es, ∀ t ∈ (Orchestrator.init settings workDir).trace es,
      ∀ k ref pc hr reply msg, k < t.started → (t.restores k).task = .suspended ref pc hr →
        pc.stepsDone ≤ 4 → ((resumeAt (t.ctxOf k) pc reply).run (t.frameOf k ref hr)).1 = .error msg →
        ∀ post, (t.resume k reply).workdir = t.workdir ∧
          (∀ c ∈ (((t.resume k reply).run post).restores k).calls, ∀ id,
            c ≠ .cleanupTemporaryNamespaces id) ∧
          ((t.resume k reply).restores ref).progress.phase = .failed ∧
          ((t.resume k reply).restores ref).progress.errors =
            (t.restores ref).progress.errors ++ [msg]) ∧
    ((Orchestrator.init {} "/w").run (runAlone requestR pushRejectedReplies)).workdir =
        ⟨true, [], true⟩ ∧
      (((Orchestrator.init {} "/w").run (runAlone requestR pushRejectedReplies)).restores
        0).progress.phase = .failed ∧
      (((Orchestrator.init {} "/w").run (runAlone requestR pushRejectedReplies)).restores
        0).progress.errors = ["rejected"] ∧
      .cleanupTemporaryNamespaces "r" ∉
        (((Orchestrator.init {} "/w").run (runAlone requestR pushRejectedReplies)).restores 0).calls :=
  ⟨fun _ _ _ _ ht _ _ _ _ _ _ hk htask hpc hraise post =>
    failure_before_cleanup ht hk htask hpc hraise post, by decide⟩

/-- The end of Validation, for every conflict list: nothing fails, and conflicts become warnings
exactly outside a cluster rebuild. -/
theorem checkRestoreConflicts_run (ctx : Ctx) (cs : List String) (f : Frame) :
    ((resumeAt ctx .checkRestoreConflicts (.conflicts cs)).run f).1 = .ok (.await .cloneGitopsRepo) ∧
      ((resumeAt ctx .checkRestoreConflicts (.conflicts cs)).run f).2.progress.warnings =
        if cs ≠ [] ∧ ctx.request.drScenario ≠ .clusterRebuild then
          f.progress.warnings ++ cs.map ("Conflict detected: " ++ ·)
        else f.progress.warnings := by
  simp only [resumeAt, call, perform, phaseValidationFinish, phasePreparationStart, completeSteps,
    setProgress, enterPhase, TaskM.run_bind, TaskM.run_bind_ite, TaskM.run_get, TaskM.run_modify,
    TaskM.run_pure, Bool.and_eq_true, Bool.not_eq_true', List.isEmpty_eq_false, decide_eq_false_iff_not]
  split <;> simp_all

/-- **Conflicts never fail Validation.**  At every state, a task suspended at conflict detection
goes on to clone the repository whatever conflicts are reported, and records no result; the
warnings of the object it holds grow by the conflicts exactly when there are some and the
scenario is not a cluster rebuild, and stay as they were otherwise. -/
theorem validation_conflicts_warn {t : Orchestrator} {k ref : Nat} {hr : List (String × Value)}
    (hk : k < t.started) (htask : (t.restores k).task = .suspended ref .checkRestoreConflicts hr)
    (cs : List String) :
    (∃ hr', ((t.resume k (.conflicts cs)).restores k).task = .suspended ref .cloneGitopsRepo hr') ∧
      (t.resume k (.conflicts cs)).restoreHistory = t.restoreHistory ∧
      ((t.resume k (.conflicts cs)).restores ref).progress.warnings =
        if cs ≠ [] ∧ (t.restores k).request.drScenario ≠ .clusterRebuild then
          (t.restores ref).progress.warnings ++ cs.map ("Conflict detected: " ++ ·)
        else (t.restores ref).progress.warnings := by
  obtain ⟨hres, hwarn⟩ := checkRestoreConflicts_run (t.ctxOf k) cs (t.frameOf k ref hr)
  rw [resume_suspended _ hk htask, runSegment_eq, hres]
  exact ⟨⟨_, by simp [settle]; rfl⟩, rfl, by simpa [settle] using hwarn⟩

/-- Restore `"r"` alone, up to the conflict check. -/
def conflictCheckState : Orchestrator :=
  (Orchestrator.init {} "/w").run (runAlone requestR ((successReplies [namespaceResource] "abc").take 5))

theorem validation_conflicts_warn_conflictCheckState :
    (0 < conflictCheckState.started ∧
      (conflictCheckState.restores 0).task = .suspended 0 .checkRestoreConflicts []) ∧
    (∃ hr', ((conflictCheckState.resume 0 (.conflicts ["deployment/web"])).restores 0).task =
        .suspended 0 .cloneGitopsRepo hr') ∧
      (conflictCheckState.resume 0 (.conflicts ["deployment/web"])).restoreHistory =
        conflictCheckState.restoreHistory ∧
      ((conflictCheckState.resume 0 (.conflicts ["deployment/web"])).restores 0).progress.warnings =
        if ["deployment/web"] ≠ [] ∧ (conflictCheckState.restores 0).request.drScenario ≠ .clusterRebuild
        then (conflictCheckState.restores 0).progress.warnings ++
          ["deployment/web"].map ("Conflict detected: " ++ ·)
        else (conflictCheckState.restores 0).progress.warnings :=
  have hk : 0 < conflictCheckState.started := by decide
  have htask : (conflictCheckState.restores 0).task = .suspended 0 .checkRestoreConflicts [] := rfl
  ⟨⟨hk, htask⟩, validation_conflicts_warn hk htask ["deployment/web"]⟩

/-- The replies of `successReplies` with `conflicts` reported by conflict detection. -/
def conflictReplies (conflicts : List String) : List Reply :=
  (successReplies [namespaceResource] "abc").set 5 (.conflicts conflicts)

set_option maxRecDepth 100000 in
/-- Outside a cluster rebuild a conflict only becomes a warning and the restore succeeds; in a
rebuild it is dropped, and the restore succeeds with no warning. -/
theorem conflicts_outside_rebuild_only_warn :
    ((Orchestrator.init {} "/w").run (runAlone requestR (conflictReplies ["deployment/web"]))
        |>.restoreHistory.map (·.success)) = [true] ∧
      (((Orchestrator.init {} "/w").run (runAlone requestR (conflictReplies ["deployment/web"]))).restores
        0).progress.warnings = ["Conflict detected: deployment/web"] ∧
      ((Orchestrator.init {} "/w").run
          (runAlone { requestR with drScenario := .clusterRebuild } (conflictReplies ["deployment/web"]))
        |>.restoreHistory.map (·.success)) = [true] ∧
      (((Orchestrator.init {} "/w").run
          (runAlone { requestR with drScenario := .clusterRebuild }
            (conflictReplies ["deployment/web"]))).restores 0).progress.warnings = [] := by
  decide

end Orchestrator

end Restore
end Tkkube
