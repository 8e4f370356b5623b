import Tkkube.Restore.Effects

/-!
# The results a restore records

`_execute_restore` assembles its `RestoreResult` from the progress object alone: `git_commits` and
`validation_report` are literals, and `resources_restored` is `progress.resources_processed`, which
no step writes.  What the phases computed (the commit hash, the verification report, the manifests)
never reaches the result, so every recorded result has no commit, an empty report and no restored
resource.

`resources_failed` is the number of errors on the object.  The task that completes has raised
nothing, so the count is `0` as long as no other task shares its object; on runs meeting
`StartsAfterEnd` none does (`FailedInv`).  `sharedObjectSchedule` shows a run where a task that
took another restore's object fails on it, and the owner then completes with one failure counted.

`list_restore_history(limit)` is the slice `restore_history[-limit:]`: the last `limit` results for
a positive limit, and the whole history for `0`.
-/

namespace Tkkube
namespace Restore
namespace Orchestrator

variable {s : Orchestrator}

/-- A running task's object carries no error, and a successful result counts no failure. -/
structure FailedInv (s : Orchestrator) : Prop where
  clean : ∀ {k}, k < s.started → (s.restores k).task.running = true →
    (s.restores k).progress.errors = []
  results : ∀ res ∈ s.restoreHistory, res.success = true → res.resourcesFailed = 0

theorem FailedInv.runSegment_self (hf : FailedInv s) {k : Nat} {hr : List (String × Value)}
    {m : TaskM Next} {pc : Pc} {ctx : Ctx} (hk : k < s.started)
    (hrun : (s.restores k).task.running = true)
    (hspec : SegmentSpec ctx pc (s.frameOf k k hr) (m.run (s.frameOf k k hr)).1
      (m.run (s.frameOf k k hr)).2) :
    FailedInv (s.runSegment k k hr m) := by
  rw [runSegment_eq]
  generalize m.run (s.frameOf k k hr) = out at hspec ⊢
  obtain ⟨res, f⟩ := out
  have herr : f.progress.errors = [] := hspec.errors.trans (hf.clean hk hrun)
  have hclean : ∀ {i}, i ≠ k → i < s.started → ((s.writeBack k k f).restores i).task.running = true →
      ((s.writeBack k k f).restores i).progress.errors = [] := fun hik hi h => by
    simp only [writeBack_task, writeBack_progress, if_neg hik] at h ⊢
    exact hf.clean hi h
  rcases settle_cases (s := s.writeBack k k f) k k res f.progress f.healthReport with
    ⟨pc', -, h⟩ | ⟨-, h⟩ | ⟨msg, -, h⟩ <;> rw [h]
  · refine ⟨fun {i} hi hti => ?_, fun res hres => hf.results res (by simpa using hres)⟩
    by_cases hik : i = k
    · subst hik; simpa using herr
    · simp only [withTask_task, withTask_progress, if_neg hik] at hti ⊢
      exact hclean hik (by simpa using hi) hti
  all_goals
    refine ⟨fun {i} hi hti => ?_, fun res hres hsucc => ?_⟩
    · by_cases hik : i = k
      · subst hik; simp [TaskState.running] at hti
      · simp only [terminate_task, terminate_progress, if_neg hik] at hti ⊢
        exact hclean hik (by simpa using hi) hti
    · simp only [terminate_restoreHistory, List.mem_append, List.mem_singleton] at hres
      rcases hres with hres | rfl
      · exact hf.results res (by simpa using hres) hsucc
      · simp_all [assembleResult, completedProgress]

theorem FailedInv.step (ha : ActiveSound s) (hx : Exclusive s) (hf : FailedInv s)
    (e : Event) (he : StartsAfterEnd s e) : FailedInv (s.step e) := by
  cases e with
  | startRestore request validation =>
    cases validation
    · refine ⟨fun {i} hi hti => ?_, fun res hres => hf.results res (by simpa using hres)⟩
      simp only [step_startRestore_none, spawn_started, spawn_task, spawn_progress] at hi hti ⊢
      split
      · rfl
      · rw [if_neg ‹_›] at hti; exact hf.clean (by omega) hti
    · exact hf
  | cancelRestore => rw [step_cancelRestore]; exact ⟨hf.clean, hf.results⟩
  | getRestoreStatus => exact hf
  | tick => exact ⟨hf.clean, hf.results⟩
  | resume k reply =>
    rw [step_resume]
    rcases resume_cases (s := s) k reply with h | ⟨-, -, -, h⟩ | ⟨ref, hr, m, hk, hcase, h⟩ <;> rw [h]
    · exact hf
    · refine ⟨fun {i} hi hti => ?_, fun res hres => hf.results res (by simpa using hres)⟩
      simp only [withTask_task, withTask_progress] at hti ⊢
      split at hti
      · simp [TaskState.running] at hti
      · exact hf.clean (by simpa using hi) hti
    · rcases hcase with ⟨ht, hact, rfl, rfl⟩ | ⟨pc, ht, rfl⟩
      · obtain ⟨hm, hid, -, hrun⟩ := ha hact
        obtain rfl := hx.unique hm hk hrun (by rw [ht]; rfl) hid
        exact hf.runSegment_self hk (by rw [ht]; rfl) (phasePlanningStart_spec (s.ctxOf ref) _)
      · obtain rfl := hx.own hk ht
        exact hf.runSegment_self hk (by rw [ht]; rfl) (resumeAt_spec _ pc reply _ rfl)

/-- **What a result reports.**  Along every run from a fresh orchestrator every recorded result
has no restored resource, no commit and an empty validation report; on runs that start an id again
only once its earlier tasks ended, moreover, a successful result counts no failed resource. -/
theorem recorded_results (settings : GitopsSettings) (workDir : String) (es : List Event) :
    (∀ res ∈ ((Orchestrator.init settings workDir).run es).restoreHistory,
      res.resourcesRestored = 0 ∧ res.gitCommits = [] ∧ res.validationReport = []) ∧
    ((∀ q ∈ (Orchestrator.init settings workDir).transitions es, StartsAfterEnd q.1 q.2) →
      ∀ res ∈ ((Orchestrator.init settings workDir).run es).restoreHistory, res.success = true →
        res.resourcesFailed = 0) := by
  have hinv := Inv.of_mem_trace (run_mem_trace (Orchestrator.init settings workDir) es)
  refine ⟨fun res hres => ?_, fun hP => ?_⟩
  · obtain ⟨h1, h2, h3, -⟩ := hinv.history res hres
    exact ⟨h1, h2, h3⟩
  · have h := (trace_chain (P := StartsAfterEnd) (R := fun _ _ => True)
      (I := fun t => Inv t ∧ ActiveSound t ∧ Exclusive t ∧ FailedInv t)
      (fun _ e h he => ⟨⟨h.1.step e, ActiveSound.step h.2.1 e, h.2.2.1.step h.2.1 e he,
        h.2.2.2.step h.2.1 h.2.2.1 e he⟩, trivial⟩)
      ⟨Inv.init settings workDir, (fun h => by cases h), ⟨fun hi => absurd hi (Nat.not_lt_zero _),
        fun hj => absurd hj (Nat.not_lt_zero _)⟩, fun hi => absurd hi (Nat.not_lt_zero _),
        fun _ h => by cases h⟩ hP).2 _ (run_mem_trace _ es)
    exact h.2.2.2.results

/-- Restore `"r"` is started, cancelled and started again; the first task takes the second
restore's object and fails on it, and the second task then runs to completion on that object. -/
def sharedObjectSchedule : List Event :=
  [.startRestore requestR none, .cancelRestore "r", .startRestore requestR none, .resume 0 .done,
    .resume 1 .done, .resume 0 (.metadata none)] ++
    ((successReplies [namespaceResource] "abc").drop 1).map (.resume 1)

set_option maxRecDepth 100000 in
/-- **A completed result drops what the phases computed.**  Along every run every recorded result
has no restored resource, no commit and an empty report (and counts no failed resource on a success
when no id is started again before its tasks ended).  A restore of one resource whose commit
returned `abc` completes, its Preparation having made one manifest and its Verification a report of
five entries, and records no commit, no report and no restored resource; on
`sharedObjectSchedule` a restore completes with one failed resource counted. -/
theorem completed_result_drops_phase_outputs :
    (∀ settings workDir es,
      (∀ res ∈ ((Orchestrator.init settings workDir).run es).restoreHistory,
        res.resourcesRestored = 0 ∧ res.gitCommits = [] ∧ res.validationReport = []) ∧
      ((∀ q ∈ (Orchestrator.init settings workDir).transitions es, StartsAfterEnd q.1 q.2) →
        ∀ res ∈ ((Orchestrator.init settings workDir).run es).restoreHistory, res.success = true →
          res.resourcesFailed = 0)) ∧
    ((Orchestrator.init {} "/w").run (runAlone requestR (successReplies [namespaceResource] "abc"))
        |>.restoreHistory.map fun res =>
          (res.success, res.resourcesRestored, res.resourcesFailed, res.gitCommits,
            res.validationReport.length)) = [(true, 0, 0, [], 0)] ∧
      .commitGitopsManifests [] (commitMessage requestR) ∈
        (((Orchestrator.init {} "/w").run
          (runAlone requestR (successReplies [namespaceResource] "abc"))).restores 0).calls ∧
      (transformToGitops requestR 0 [namespaceResource]).toOption.map List.length = some 1 ∧
      (generateVerificationReport requestR 0 []).length = 5 ∧
      ((Orchestrator.init {} "/w").run sharedObjectSchedule
        |>.restoreHistory.map fun res => (res.success, res.resourcesFailed)) = [(false, 1), (true, 1)] :=
  ⟨recorded_results, by decide⟩

/-! ## Listing the history -/

/-- For a positive limit `n`, `list_restore_history` returns the last `min n k` of the `k` results,
in the order they were appended. -/
theorem listRestoreHistory_pos (s : Orchestrator) {n : Nat} (hn : 0 < n) :
    s.listRestoreHistory n <:+ s.restoreHistory ∧
      (s.listRestoreHistory n).length = min n s.restoreHistory.length := by
  have hneg : ¬ (n : Int) ≤ 0 := by omega
  simp only [listRestoreHistory, if_neg hneg, Int.toNat_ofNat]
  exact ⟨List.drop_suffix _ _, by rw [List.length_drop]; omega⟩

theorem listRestoreHistory_zero (s : Orchestrator) : s.listRestoreHistory 0 = s.restoreHistory := rfl

set_option maxRecDepth 100000 in
/-- **`list_restore_history(0)` returns the whole history.**  For every state and every limit
`n ≥ 1` the call returns the last `min n k` results in the order they were appended, but for `0`
the slice `restore_history[-0:]` is the whole history, so after a restore has failed on a missing
backup `list_restore_history(0)` returns its result. -/
theorem list_restore_history_zero_returns_all :
    (∀ (s : Orchestrator) (n : Nat), 0 < n →
      s.listRestoreHistory n <:+ s.restoreHistory ∧
        (s.listRestoreHistory n).length = min n s.restoreHistory.length) ∧
      (∀ s : Orchestrator, s.listRestoreHistory 0 = s.restoreHistory) ∧
      (((Orchestrator.init {} "/w").run
        [.startRestore requestR none, .resume 0 .done, .resume 0 (.metadata none)]).listRestoreHistory
          0).length = 1 :=
  ⟨fun s _ hn => listRestoreHistory_pos s hn, listRestoreHistory_zero, by decide⟩

end Orchestrator
end Restore
end Tkkube
