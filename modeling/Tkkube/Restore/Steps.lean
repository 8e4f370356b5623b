import Tkkube.Restore.Orchestrator
import Tkkube.Restore.Segments

/-!
# One step of the orchestrator

Frame lemmas for the pieces of `resume` (which slots, which fields, which maps each piece
writes), and the invariant every reachable state satisfies:

* an `active_restores` entry names a created progress object of a restore with that id;
* a suspended task holds a created object of a restore with its own id;
* `resources_processed` is never written, so it stays `0`;
* nothing ever writes into `generated_dir`;
* every recorded result carries no commit, an empty report and no restored resource, and it is a
  success exactly when its phase is `Completed`.

`Inv.run` proves it for every run from a fresh orchestrator.
-/

namespace Tkkube
namespace Restore
namespace Orchestrator

variable {s : Orchestrator}

/-! ## Frame lemmas -/

section Frame

variable {k ref i : Nat} {g : RestoreSlot → RestoreSlot} {β : Type}

theorem modifyRestore_apply (P : RestoreSlot → β) :
    P ((s.modifyRestore k g).restores i) = if i = k then P (g (s.restores k)) else P (s.restores i) := by
  by_cases h : i = k <;> simp [modifyRestore, h]

theorem modifyRestore_apply_of_preserves (P : RestoreSlot → β) (hg : ∀ r, P (g r) = P r) :
    P ((s.modifyRestore k g).restores i) = P (s.restores i) := by
  rw [modifyRestore_apply P]; split <;> simp_all

variable {p : RestoreProgress} {t : TaskState} {cs : List ExtCall}

@[simp] theorem withProgress_request : ((s.withProgress ref p).restores i).request = (s.restores i).request :=
  modifyRestore_apply_of_preserves _ fun _ => rfl
@[simp] theorem withProgress_progress :
    ((s.withProgress ref p).restores i).progress = if i = ref then p else (s.restores i).progress :=
  modifyRestore_apply _
@[simp] theorem withProgress_task : ((s.withProgress ref p).restores i).task = (s.restores i).task :=
  modifyRestore_apply_of_preserves _ fun _ => rfl
@[simp] theorem withProgress_calls : ((s.withProgress ref p).restores i).calls = (s.restores i).calls :=
  modifyRestore_apply_of_preserves _ fun _ => rfl

@[simp] theorem withTask_request : ((s.withTask k t).restores i).request = (s.restores i).request :=
  modifyRestore_apply_of_preserves _ fun _ => rfl
@[simp] theorem withTask_progress : ((s.withTask k t).restores i).progress = (s.restores i).progress :=
  modifyRestore_apply_of_preserves _ fun _ => rfl
@[simp] theorem withTask_task :
    ((s.withTask k t).restores i).task = if i = k then t else (s.restores i).task :=
  modifyRestore_apply _
@[simp] theorem withTask_calls : ((s.withTask k t).restores i).calls = (s.restores i).calls :=
  modifyRestore_apply_of_preserves _ fun _ => rfl

@[simp] theorem withCalls_request : ((s.withCalls k cs).restores i).request = (s.restores i).request :=
  modifyRestore_apply_of_preserves _ fun _ => rfl
@[simp] theorem withCalls_progress : ((s.withCalls k cs).restores i).progress = (s.restores i).progress :=
  modifyRestore_apply_of_preserves _ fun _ => rfl
@[simp] theorem withCalls_task : ((s.withCalls k cs).restores i).task = (s.restores i).task :=
  modifyRestore_apply_of_preserves _ fun _ => rfl
@[simp] theorem withCalls_calls :
    ((s.withCalls k cs).restores i).calls = if i = k then cs else (s.restores i).calls :=
  modifyRestore_apply _

@[simp] theorem withTask_activeRestores : (s.withTask k t).activeRestores = s.activeRestores := rfl
@[simp] theorem withTask_restoreHistory : (s.withTask k t).restoreHistory = s.restoreHistory := rfl
@[simp] theorem withTask_started : (s.withTask k t).started = s.started := rfl
@[simp] theorem withTask_workdir : (s.withTask k t).workdir = s.workdir := rfl
@[simp] theorem withTask_clock : (s.withTask k t).clock = s.clock := rfl
@[simp] theorem withTask_settings : (s.withTask k t).settings = s.settings := rfl
@[simp] theorem withTask_workDir : (s.withTask k t).workDir = s.workDir := rfl

variable {f : Frame}

@[simp] theorem writeBack_activeRestores : (s.writeBack k ref f).activeRestores = s.activeRestores := rfl
@[simp] theorem writeBack_restoreHistory : (s.writeBack k ref f).restoreHistory = s.restoreHistory := rfl
@[simp] theorem writeBack_started : (s.writeBack k ref f).started = s.started := rfl
@[simp] theorem writeBack_workdir : (s.writeBack k ref f).workdir = f.workdir := rfl
@[simp] theorem writeBack_clock : (s.writeBack k ref f).clock = s.clock := rfl
@[simp] theorem writeBack_settings : (s.writeBack k ref f).settings = s.settings := rfl
@[simp] theorem writeBack_workDir : (s.writeBack k ref f).workDir = s.workDir := rfl

@[simp] theorem writeBack_request : ((s.writeBack k ref f).restores i).request = (s.restores i).request :=
  withCalls_request.trans withProgress_request
@[simp] theorem writeBack_progress : ((s.writeBack k ref f).restores i).progress =
    if i = ref then f.progress else (s.restores i).progress :=
  withCalls_progress.trans withProgress_progress
@[simp] theorem writeBack_task : ((s.writeBack k ref f).restores i).task = (s.restores i).task :=
  withCalls_task.trans withProgress_task
@[simp] theorem writeBack_calls :
    ((s.writeBack k ref f).restores i).calls = if i = k then f.calls else (s.restores i).calls := by
  simp [writeBack]

variable {e : Option String}

@[simp] theorem terminate_started : (s.terminate k ref p e).started = s.started := rfl
@[simp] theorem terminate_workdir : (s.terminate k ref p e).workdir = s.workdir := rfl
@[simp] theorem terminate_clock : (s.terminate k ref p e).clock = s.clock := rfl
@[simp] theorem terminate_settings : (s.terminate k ref p e).settings = s.settings := rfl
@[simp] theorem terminate_workDir : (s.terminate k ref p e).workDir = s.workDir := rfl

@[simp] theorem terminate_restoreHistory : (s.terminate k ref p e).restoreHistory =
    s.restoreHistory ++ [assembleResult (s.restores k).request p s.clock e] := rfl
@[simp] theorem terminate_activeRestores : (s.terminate k ref p e).activeRestores =
    Function.update s.activeRestores (s.restores k).request.restoreId none := rfl

@[simp] theorem terminate_request : ((s.terminate k ref p e).restores i).request = (s.restores i).request :=
  withTask_request.trans withProgress_request
@[simp] theorem terminate_progress : ((s.terminate k ref p e).restores i).progress =
    if i = ref then p else (s.restores i).progress :=
  withTask_progress.trans withProgress_progress
@[simp] theorem terminate_task : ((s.terminate k ref p e).restores i).task =
    if i = k then .finished else (s.restores i).task := by
  simp [terminate]
@[simp] theorem terminate_calls : ((s.terminate k ref p e).restores i).calls = (s.restores i).calls :=
  withTask_calls.trans withProgress_calls

end Frame

section Spawn

variable {request : RestoreRequest} {i : Nat}

@[simp] theorem spawn_started : (s.spawn request).started = s.started + 1 := rfl
@[simp] theorem spawn_activeRestores : (s.spawn request).activeRestores =
    Function.update s.activeRestores request.restoreId (some s.started) := rfl
@[simp] theorem spawn_restoreHistory : (s.spawn request).restoreHistory = s.restoreHistory := rfl
@[simp] theorem spawn_workdir : (s.spawn request).workdir = s.workdir := rfl
@[simp] theorem spawn_clock : (s.spawn request).clock = s.clock := rfl

theorem spawn_restores : (s.spawn request).restores i =
    if i = s.started then ⟨request, initialProgress s.clock, .spawned, []⟩ else s.restores i :=
  Function.update_apply ..

@[simp] theorem spawn_request : ((s.spawn request).restores i).request =
    if i = s.started then request else (s.restores i).request := by
  rw [spawn_restores]; split <;> rfl
@[simp] theorem spawn_progress : ((s.spawn request).restores i).progress =
    if i = s.started then initialProgress s.clock else (s.restores i).progress := by
  rw [spawn_restores]; split <;> rfl
@[simp] theorem spawn_task : ((s.spawn request).restores i).task =
    if i = s.started then .spawned else (s.restores i).task := by
  rw [spawn_restores]; split <;> rfl
@[simp] theorem spawn_calls : ((s.spawn request).restores i).calls =
    if i = s.started then [] else (s.restores i).calls := by
  rw [spawn_restores]; split <;> rfl

end Spawn

/-- The three ways a segment can end, as `settle` records them. -/
theorem settle_cases (k ref : Nat) (res : Except String Next) (p : RestoreProgress)
    (healthReport : List (String × Value)) :
    (∃ pc, res = .ok (.await pc) ∧ s.settle k ref res p healthReport =
        s.withTask k (.suspended ref pc healthReport)) ∨
      (res = .ok .returned ∧ s.settle k ref res p healthReport =
        s.terminate k ref (completedProgress p) none) ∨
      (∃ msg, res = .error msg ∧ s.settle k ref res p healthReport =
        s.terminate k ref (failedProgress p msg) (some msg)) := by
  rcases res with msg | (pc | _) <;> simp [settle]

theorem runSegment_eq (k ref : Nat) (hr : List (String × Value)) (m : TaskM Next) :
    s.runSegment k ref hr m =
      (s.writeBack k ref (m.run (s.frameOf k ref hr)).2).settle k ref (m.run (s.frameOf k ref hr)).1
        (m.run (s.frameOf k ref hr)).2.progress (m.run (s.frameOf k ref hr)).2.healthReport :=
  rfl

/-- What a step of task `k` can be: nothing (no such task, or a task that has ended), the
`KeyError` of line 193, or a segment on the progress object `ref` the task holds. -/
theorem resume_cases (k : Nat) (reply : Reply) :
    s.resume k reply = s ∨
      (k < s.started ∧ (s.restores k).task = .spawned ∧
        s.activeRestores (s.restores k).request.restoreId = none ∧
        s.resume k reply = s.withTask k (.crashed (Value.quote (s.restores k).request.restoreId))) ∨
      (∃ ref hr m, k < s.started ∧
        (((s.restores k).task = .spawned ∧ s.activeRestores (s.restores k).request.restoreId = some ref ∧
            hr = [] ∧ m = phasePlanningStart) ∨
          ∃ pc, (s.restores k).task = .suspended ref pc hr ∧ m = resumeAt (s.ctxOf k) pc reply) ∧
        s.resume k reply = s.runSegment k ref hr m) := by
  unfold resume
  by_cases hk : k < s.started
  · rw [if_pos hk]
    split
    · rename_i htask
      split
      · rename_i hnone
        exact .inr (.inl ⟨hk, htask, hnone, rfl⟩)
      · rename_i ref href
        exact .inr (.inr ⟨ref, [], _, hk, .inl ⟨htask, href, rfl, rfl⟩, rfl⟩)
    · rename_i ref pc hr htask
      exact .inr (.inr ⟨ref, hr, _, hk, .inr ⟨pc, htask, rfl⟩, rfl⟩)
    · exact .inl rfl
    · exact .inl rfl
  · simp [hk]

theorem resume_of_le {k : Nat} (reply : Reply) (hk : s.started ≤ k) : s.resume k reply = s := by
  simp [resume, Nat.not_lt.mpr hk]

theorem resume_spawned {k ref : Nat} (reply : Reply) (hk : k < s.started)
    (htask : (s.restores k).task = .spawned)
    (hact : s.activeRestores (s.restores k).request.restoreId = some ref) :
    s.resume k reply = s.runSegment k ref [] phasePlanningStart := by
  simp [resume, hk, htask, hact]

theorem resume_suspended {k ref : Nat} {pc : Pc} {hr : List (String × Value)} (reply : Reply)
    (hk : k < s.started) (htask : (s.restores k).task = .suspended ref pc hr) :
    s.resume k reply = s.runSegment k ref hr (resumeAt (s.ctxOf k) pc reply) := by
  simp [resume, hk, htask]

theorem resume_finished {k : Nat} (reply : Reply) (htask : (s.restores k).task = .finished) :
    s.resume k reply = s := by
  unfold resume; split <;> simp [htask]

/-! ## What a step leaves alone -/

section StepFrame

variable {k ref i : Nat} {hr : List (String × Value)} {m : TaskM Next} {reply : Reply}

@[simp] theorem settle_request {res : Except String Next} {p : RestoreProgress} :
    ((s.settle k ref res p hr).restores i).request = (s.restores i).request := by
  rcases res with _ | (_ | _) <;> simp [settle]

@[simp] theorem settle_started {res : Except String Next} {p : RestoreProgress} :
    (s.settle k ref res p hr).started = s.started := by
  rcases res with _ | (_ | _) <;> simp [settle]

@[simp] theorem runSegment_request : ((s.runSegment k ref hr m).restores i).request = (s.restores i).request := by
  simp [runSegment_eq]

@[simp] theorem runSegment_started : (s.runSegment k ref hr m).started = s.started := by
  simp [runSegment_eq]

section Settle

variable {res : Except String Next} {p : RestoreProgress}

theorem settle_task_of_ne (h : i ≠ k) :
    ((s.settle k ref res p hr).restores i).task = (s.restores i).task := by
  rcases res with _ | (_ | _) <;> simp [settle, h]

theorem settle_progress_of_ne (h : i ≠ ref) :
    ((s.settle k ref res p hr).restores i).progress = (s.restores i).progress := by
  rcases res with _ | (_ | _) <;> simp [settle, h]

theorem settle_activeRestores_of_ne {id : String} (h : id ≠ (s.restores k).request.restoreId) :
    (s.settle k ref res p hr).activeRestores id = s.activeRestores id := by
  rcases res with _ | (_ | _) <;> simp [settle, Function.update_apply, h]

theorem settle_restoreHistory (k ref : Nat) (res : Except String Next) (p : RestoreProgress)
    (hr : List (String × Value)) : (s.settle k ref res p hr).restoreHistory = s.restoreHistory ∨
    ∃ q e, (s.settle k ref res p hr).restoreHistory =
      s.restoreHistory ++ [assembleResult (s.restores k).request q s.clock e] := by
  rcases res with _ | (_ | _)
  all_goals first | exact .inl rfl | exact .inr ⟨_, _, rfl⟩

@[simp] theorem settle_calls : ((s.settle k ref res p hr).restores i).calls = (s.restores i).calls := by
  rcases res with _ | (_ | _) <;> simp [settle]

@[simp] theorem settle_workdir : (s.settle k ref res p hr).workdir = s.workdir := by
  rcases res with _ | (_ | _) <;> simp [settle]

end Settle

theorem runSegment_workdir :
    (s.runSegment k ref hr m).workdir = (m.run (s.frameOf k ref hr)).2.workdir := by
  simp [runSegment_eq]

theorem runSegment_calls : ((s.runSegment k ref hr m).restores i).calls =
    if i = k then (m.run (s.frameOf k ref hr)).2.calls else (s.restores i).calls := by
  simp [runSegment_eq]

/-- A segment leaves its task suspended at the point it stopped at, or ended. -/
theorem runSegment_task_self (k ref : Nat) (hr : List (String × Value)) (m : TaskM Next) :
    (∃ pc, (m.run (s.frameOf k ref hr)).1 = .ok (.await pc) ∧
        ((s.runSegment k ref hr m).restores k).task =
          .suspended ref pc (m.run (s.frameOf k ref hr)).2.healthReport) ∨
      ((s.runSegment k ref hr m).restores k).task = .finished := by
  rw [runSegment_eq]
  rcases settle_cases (s := s.writeBack k ref _) k ref _ _ _ with ⟨pc, hres, e⟩ | ⟨_, e⟩ | ⟨_, _, e⟩ <;>
    rw [e]
  · exact .inl ⟨pc, hres, by simp⟩
  all_goals exact .inr (by simp)

theorem runSegment_task_of_ne (h : i ≠ k) :
    ((s.runSegment k ref hr m).restores i).task = (s.restores i).task := by
  rw [runSegment_eq, settle_task_of_ne h, writeBack_task]

theorem runSegment_progress_of_ne (h : i ≠ ref) :
    ((s.runSegment k ref hr m).restores i).progress = (s.restores i).progress := by
  rw [runSegment_eq, settle_progress_of_ne h, writeBack_progress, if_neg h]

theorem runSegment_activeRestores_of_ne {id : String} (h : id ≠ (s.restores k).request.restoreId) :
    (s.runSegment k ref hr m).activeRestores id = s.activeRestores id := by
  rw [runSegment_eq, settle_activeRestores_of_ne (by simpa using h), writeBack_activeRestores]

theorem runSegment_restoreHistory : (s.runSegment k ref hr m).restoreHistory = s.restoreHistory ∨
    ∃ q e, (s.runSegment k ref hr m).restoreHistory =
      s.restoreHistory ++ [assembleResult (s.restores k).request q s.clock e] := by
  rw [runSegment_eq]
  simpa using settle_restoreHistory (s := s.writeBack k ref _) k ref _ _ _

@[simp] theorem resume_request : ((s.resume k reply).restores i).request = (s.restores i).request := by
  rcases resume_cases (s := s) k reply with h | ⟨-, -, -, h⟩ | ⟨_, _, _, -, -, h⟩ <;> simp [h]

@[simp] theorem resume_started : (s.resume k reply).started = s.started := by
  rcases resume_cases (s := s) k reply with h | ⟨-, -, -, h⟩ | ⟨_, _, _, -, -, h⟩ <;> simp [h]

theorem resume_activeRestores_of_ne {id : String} (h : id ≠ (s.restores k).request.restoreId) :
    (s.resume k reply).activeRestores id = s.activeRestores id := by
  rcases resume_cases (s := s) k reply with e | ⟨-, -, -, e⟩ | ⟨_, _, _, -, -, e⟩ <;>
    simp [e, runSegment_activeRestores_of_ne h]

theorem resume_restoreHistory (k : Nat) (reply : Reply) :
    (s.resume k reply).restoreHistory = s.restoreHistory ∨
    ∃ q e, (s.resume k reply).restoreHistory =
      s.restoreHistory ++ [assembleResult (s.restores k).request q s.clock e] := by
  rcases resume_cases (s := s) k reply with e | ⟨-, -, -, e⟩ | ⟨_, _, _, -, -, e⟩ <;> rw [e]
  · exact .inl rfl
  · exact .inl rfl
  · exact runSegment_restoreHistory

theorem step_started (e : Event) : s.started ≤ (s.step e).started := by
  cases e with
  | startRestore _ validation => cases validation <;> simp
  | cancelRestore _ => simp [step_cancelRestore]
  | resume => simp
  | _ => simp

theorem step_request (hi : i < s.started) (e : Event) :
    ((s.step e).restores i).request = (s.restores i).request := by
  cases e with
  | startRestore _ validation => cases validation <;> simp [Nat.ne_of_lt hi]
  | cancelRestore _ => simp [step_cancelRestore]
  | resume => simp
  | _ => simp

theorem started_le_run : ∀ {s : Orchestrator} (es : List Event), s.started ≤ (s.run es).started
  | _, [] => le_rfl
  | s, e :: es => (step_started e).trans (started_le_run (s := s.step e) es)

/-- A restore's request never changes once it is created. -/
theorem run_request : ∀ {s : Orchestrator} {i : Nat} (es : List Event), i < s.started →
    ((s.run es).restores i).request = (s.restores i).request
  | _, _, [], _ => rfl
  | s, _, e :: es, h => (run_request (s := s.step e) es (h.trans_le (step_started e))).trans
      (step_request h e)

end StepFrame

/-! ## The invariant of reachable states -/

/-- What the code puts into every `RestoreResult`. -/
def ResultShape (res : RestoreResult) : Prop :=
  res.resourcesRestored = 0 ∧ res.gitCommits = [] ∧ res.validationReport = [] ∧
    (res.success = true ↔ res.phase = .completed)

/-- What every reachable state satisfies. -/
structure Inv (s : Orchestrator) : Prop where
  active : ∀ {id k}, s.activeRestores id = some k →
    k < s.started ∧ (s.restores k).request.restoreId = id
  held : ∀ {j ref pc hr}, j < s.started → (s.restores j).task = .suspended ref pc hr →
    ref < s.started ∧ (s.restores ref).request.restoreId = (s.restores j).request.restoreId
  unprocessed : ∀ i, (s.restores i).progress.resourcesProcessed = 0
  noGenerated : s.workdir.generated = []
  history : ∀ res ∈ s.restoreHistory, ResultShape res

/-- What the invariant needs from a segment: it leaves `resources_processed` alone and puts
nothing into `generated_dir`. -/
def SegmentFrame (fr f : Frame) : Prop :=
  f.progress.resourcesProcessed = fr.progress.resourcesProcessed ∧
    (fr.workdir.generated = [] → f.workdir.generated = [])

theorem segmentFrame_resumeAt (ctx : Ctx) (pc : Pc) (reply : Reply) (fr : Frame) :
    SegmentFrame fr ((resumeAt ctx pc reply).run fr).2 := by
  have h := resumeAt_spec ctx pc reply fr rfl
  refine ⟨h.resourcesProcessed, fun hg => ?_⟩
  rcases h.workdir with h | ⟨-, h⟩ | ⟨-, h⟩ <;> rw [h]
  · exact hg
  · exact hg
  · unfold Workdir.removed; split <;> simp [hg]

theorem assembleResult_shape (request : RestoreRequest) (p : RestoreProgress) (now : Nat)
    (error : Option String) (hp : p.resourcesProcessed = 0) :
    ResultShape (assembleResult request p now error) := by
  cases error <;> simp [ResultShape, assembleResult, hp]

theorem Inv.runSegment (hs : Inv s) {k ref : Nat} {hr : List (String × Value)} {m : TaskM Next}
    (hk : k < s.started) (href : ref < s.started)
    (hid : (s.restores ref).request.restoreId = (s.restores k).request.restoreId)
    (hseg : SegmentFrame (s.frameOf k ref hr) (m.run (s.frameOf k ref hr)).2) :
    Inv (s.runSegment k ref hr m) := by
  rw [runSegment_eq]
  generalize m.run (s.frameOf k ref hr) = out at hseg ⊢
  obtain ⟨res, f⟩ := out
  obtain ⟨hproc, hgen⟩ := hseg
  have hp : f.progress.resourcesProcessed = 0 := by rw [hproc]; exact hs.unprocessed ref
  have hunproc : ∀ i, ((s.writeBack k ref f).restores i).progress.resourcesProcessed = 0 := by
    intro i; rw [writeBack_progress]; split
    · exact hp
    · exact hs.unprocessed i
  rcases settle_cases (s := s.writeBack k ref f) k ref res f.progress f.healthReport with
    ⟨pc, -, h⟩ | ⟨-, h⟩ | ⟨msg, -, h⟩ <;> rw [h]
  · refine ⟨fun h' => by simpa using hs.active h', fun hj ht => ?_, fun i => by simpa using hunproc i,
      hgen hs.noGenerated, hs.history⟩
    simp only [withTask_task, writeBack_task] at ht
    rw [withTask_started, writeBack_started] at hj
    split at ht
    · cases ht; subst_vars; simpa using ⟨href, hid⟩
    · simpa using hs.held hj ht
  all_goals
    refine ⟨fun h' => ?_, fun hj ht => ?_, fun i => ?_, hgen hs.noGenerated, ?_⟩
    · rw [terminate_activeRestores, Function.update_apply] at h'
      split at h'
      · cases h'
      · simpa using hs.active h'
    · simp only [terminate_task, writeBack_task] at ht
      rw [terminate_started, writeBack_started] at hj
      split at ht
      · cases ht
      · simpa using hs.held hj ht
    · rw [terminate_progress]; split
      · simpa [completedProgress, failedProgress] using hp
      · exact hunproc i
    · simp only [terminate_restoreHistory, List.mem_append, List.mem_singleton]
      rintro res (hres | rfl)
      · exact hs.history res hres
      · exact assembleResult_shape _ _ _ _ (by simpa [completedProgress, failedProgress] using hp)

theorem Inv.init (settings : GitopsSettings) (workDir : String) :
    Inv (Orchestrator.init settings workDir) where
  active h := by cases h
  held hj := absurd hj (Nat.not_lt_zero _)
  unprocessed _ := rfl
  noGenerated := rfl
  history _ h := by cases h

theorem Inv.spawn (hs : Inv s) (request : RestoreRequest) : Inv (s.spawn request) where
  active {id k} h := by
    rw [spawn_activeRestores, Function.update_apply] at h
    split at h
    · cases h; simp_all
    · have := hs.active h
      simp [this.2, Nat.ne_of_lt this.1, Nat.lt_succ_of_lt this.1]
  held {j ref pc hr} hj ht := by
    simp only [spawn_task] at ht
    split at ht
    · cases ht
    · rename_i hjs
      have := hs.held (by simp at hj; omega) ht
      simp [hjs, Nat.ne_of_lt this.1, Nat.lt_succ_of_lt this.1, this.2]
  unprocessed i := by
    simp only [spawn_progress]; split
    · rfl
    · exact hs.unprocessed i
  noGenerated := hs.noGenerated
  history := hs.history

theorem Inv.resume (hs : Inv s) (k : Nat) (reply : Reply) : Inv (s.resume k reply) := by
  rcases resume_cases (s := s) k reply with h | ⟨-, -, -, h⟩ | ⟨ref, hr, m, hk, hcase, h⟩ <;> rw [h]
  · exact hs
  · refine ⟨fun h' => by simpa using hs.active h', fun hj ht => ?_, fun i => by simpa using hs.unprocessed i,
      hs.noGenerated, hs.history⟩
    simp only [withTask_task] at ht
    split at ht
    · cases ht
    · simpa using hs.held hj ht
  · rcases hcase with ⟨-, href, rfl, rfl⟩ | ⟨pc, htask, rfl⟩
    · have := hs.active href
      refine hs.runSegment hk this.1 this.2 ⟨?_, fun h => ?_⟩ <;> rw [phasePlanningStart_run]
      exact h
    · have := hs.held hk htask
      exact hs.runSegment hk this.1 this.2 (segmentFrame_resumeAt ..)

theorem Inv.step (hs : Inv s) : ∀ e : Event, Inv (s.step e)
  | .startRestore request none => hs.spawn request
  | .startRestore _ (some _) => hs
  | .cancelRestore id => by
      rw [step_cancelRestore]
      refine { hs with active := fun {id' k} h => ?_ }
      simp only [Function.update_apply] at h
      split at h
      · cases h
      · exact hs.active h
  | .getRestoreStatus _ => hs
  | .resume k reply => hs.resume k reply
  | .tick => { hs with }

/-- A step of task `k` leaves alone every restore whose id differs from its own. -/
theorem Inv.resume_of_ne (hs : Inv s) {k i : Nat} (reply : Reply)
    (hid : (s.restores i).request.restoreId ≠ (s.restores k).request.restoreId) :
    ((s.resume k reply).restores i).progress = (s.restores i).progress ∧
      ((s.resume k reply).restores i).task = (s.restores i).task := by
  have hik : i ≠ k := by rintro rfl; exact hid rfl
  rcases resume_cases (s := s) k reply with h | ⟨-, -, -, h⟩ | ⟨ref, hr, m, hk, hcase, h⟩ <;> rw [h]
  · exact ⟨rfl, rfl⟩
  · simp [hik]
  · have href : (s.restores ref).request.restoreId = (s.restores k).request.restoreId := by
      rcases hcase with ⟨-, h', -, -⟩ | ⟨pc, h', -⟩
      · exact (hs.active h').2
      · exact (hs.held hk h').2
    have hir : i ≠ ref := by rintro rfl; exact hid href
    exact ⟨runSegment_progress_of_ne hir, runSegment_task_of_ne hik⟩

/-- Every state along every run from a fresh orchestrator satisfies the invariant. -/
theorem Inv.of_mem_trace {settings : GitopsSettings} {workDir : String} {es : List Event}
    {t : Orchestrator} (ht : t ∈ (Orchestrator.init settings workDir).trace es) : Inv t :=
  (trace_chain (P := fun _ _ => True) (R := fun _ _ => True) (fun _ e hs _ => ⟨hs.step e, trivial⟩)
    (Inv.init settings workDir) (fun _ _ => trivial)).2 t ht

end Orchestrator
end Restore
end Tkkube
