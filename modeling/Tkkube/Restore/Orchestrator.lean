import Tkkube.Restore.Phases
import Mathlib.Data.List.Chain

/-!
# The orchestrator and its runs

`GitOpsRestoreOrchestrator` as a state machine.  Its state is the `active_restores` map, the
`restore_history` list, the shared `work_dir`, the clock, and what each `start_restore` call
created: call number `k` made progress object `k` and spawned task `k`.  `active_restores` maps a
restore id to the number of a progress object, so that two names of one object stay one object.

An `Event` is a call of the public interface or one step of a spawned task: the task resumes with
the outcome of the call it awaits and runs to its next suspension point.  The validation that
`start_restore` awaits before it touches anything is an outcome carried by the event: as written,
`validate_request(request.__dict__)` lacks two of the arguments `validate_request` requires and
raises `TypeError`, and the model keeps every outcome, that one among them.  A task's
first step is line 193, `progress = self.active_restores[request.restore_id]`, which stands outside
the `try`: when the key is gone the task dies with a `KeyError` and its `finally` never runs.
-/

namespace Tkkube
namespace Restore

/-- Where a spawned `_execute_restore` task is. -/
inductive TaskState where
  /-- Created by `asyncio.create_task`, not yet run. -/
  | spawned
  /-- Suspended at `pc`, holding progress object `progress` and the local `health_report`. -/
  | suspended (progress : Nat) (pc : Pc) (healthReport : List (String × Value))
  /-- Ran its `finally` clause. -/
  | finished
  /-- Died at line 193 with a `KeyError`, outside the `try`. -/
  | crashed (error : String)
  deriving Inhabited

/-- What one `start_restore` call created. -/
structure RestoreSlot where
  request : RestoreRequest
  progress : RestoreProgress
  task : TaskState
  calls : List ExtCall
  deriving Inhabited

/-- `GitOpsRestoreOrchestrator`. -/
structure Orchestrator where
  settings : GitopsSettings
  workDir : String
  activeRestores : String → Option Nat
  restoreHistory : List RestoreResult
  started : Nat
  restores : Nat → RestoreSlot
  workdir : Workdir
  clock : Nat

namespace Orchestrator

/-- The progress object `start_restore` creates at clock reading `now`. -/
def initialProgress (now : Nat) : RestoreProgress where
  phase := .planning
  percentComplete := 0
  currentStep := "Initializing restore operation"
  stepsCompleted := 0
  totalSteps := 7
  startTime := now

/-- A fresh orchestrator whose `work_dir` is at `workDir`.  Restores past `started` do not exist;
their slots hold a default record. -/
def init (settings : GitopsSettings) (workDir : String) : Orchestrator where
  settings := settings
  workDir := workDir
  activeRestores := fun _ => none
  restoreHistory := []
  started := 0
  restores := fun _ => default
  workdir := Workdir.initial
  clock := 0

/-- Change what call `k` created. -/
def modifyRestore (s : Orchestrator) (k : Nat) (g : RestoreSlot → RestoreSlot) : Orchestrator :=
  { s with restores := Function.update s.restores k (g (s.restores k)) }

/-- Progress object `ref` becomes `p`. -/
def withProgress (s : Orchestrator) (ref : Nat) (p : RestoreProgress) : Orchestrator :=
  s.modifyRestore ref fun r => { r with progress := p }

/-- Task `k` moves to `t`. -/
def withTask (s : Orchestrator) (k : Nat) (t : TaskState) : Orchestrator :=
  s.modifyRestore k fun r => { r with task := t }

/-- Task `k`'s record of external calls becomes `calls`. -/
def withCalls (s : Orchestrator) (k : Nat) (calls : List ExtCall) : Orchestrator :=
  s.modifyRestore k fun r => { r with calls := calls }

/-! ## The public interface -/

/-- The body of `start_restore(request)` after its validation returned: progress object and task
number `started` are created and the object is entered under the request's id. -/
def spawn (s : Orchestrator) (request : RestoreRequest) : Orchestrator :=
  { s with
    activeRestores := Function.update s.activeRestores request.restoreId (some s.started)
    restores := Function.update s.restores s.started ⟨request, initialProgress s.clock, .spawned, []⟩
    started := s.started + 1 }

/-- `start_restore(request)`, whose awaited validation raised `validation` or returned.  On
success it returns the restore id. -/
def startRestore (s : Orchestrator) (request : RestoreRequest) (validation : Option String) :
    Except String (String × Orchestrator) :=
  match validation with
  | some msg => .error msg
  | none => .ok (request.restoreId, s.spawn request)

/-- `get_restore_status(restore_id)`. -/
def getRestoreStatus (s : Orchestrator) (restoreId : String) : Option RestoreProgress :=
  (s.activeRestores restoreId).map fun k => (s.restores k).progress

/-- `cancel_restore(restore_id)`: bookkeeping only. -/
def cancelRestore (s : Orchestrator) (restoreId : String) : Bool × Orchestrator :=
  match s.activeRestores restoreId with
  | some _ => (true, { s with activeRestores := Function.update s.activeRestores restoreId none })
  | none => (false, s)

/-- `list_restore_history(limit)`: the slice `restore_history[-limit:]`. -/
def listRestoreHistory (s : Orchestrator) (limit : Int) : List RestoreResult :=
  if limit ≤ 0 then s.restoreHistory.drop (-limit).toNat
  else s.restoreHistory.drop (s.restoreHistory.length - limit.toNat)

/-! ## The end of `_execute_restore` -/

/-- The progress after the last phase returned. -/
def completedProgress (p : RestoreProgress) : RestoreProgress :=
  { p with phase := .completed, percentComplete := 100,
           currentStep := "Restore completed successfully" }

/-- The progress after a phase raised `msg`. -/
def failedProgress (p : RestoreProgress) (msg : String) : RestoreProgress :=
  { p with phase := .failed, errors := p.errors ++ [msg] }

/-- The `RestoreResult` `_execute_restore` assembles from the final progress `p` at clock reading
`now`; `error` is the message of the exception it caught, if any. -/
def assembleResult (request : RestoreRequest) (p : RestoreProgress) (now : Nat)
    (error : Option String) : RestoreResult where
  restoreId := request.restoreId
  success := error.isNone
  phase := if error.isNone then .completed else .failed
  startTime := p.startTime
  endTime := now
  duration := now - p.startTime
  resourcesRestored := p.resourcesProcessed
  resourcesFailed := p.errors.length
  gitCommits := []
  validationReport := []
  errorSummary := error

/-- Task `k`, holding progress object `ref`, leaves `_execute_restore` with final progress `p`:
the result is appended to the history and the `finally` clause deletes the task's restore id
from `active_restores` (the guard `in` skips an absent key, which leaves the same map). -/
def terminate (s : Orchestrator) (k ref : Nat) (p : RestoreProgress) (error : Option String) :
    Orchestrator :=
  let request := (s.restores k).request
  let s := (s.withProgress ref p).withTask k .finished
  { s with
    restoreHistory := s.restoreHistory ++ [assembleResult request p s.clock error]
    activeRestores := Function.update s.activeRestores request.restoreId none }

/-- The context task `k` runs in. -/
def ctxOf (s : Orchestrator) (k : Nat) : Ctx :=
  ⟨s.settings, s.workDir, s.clock, (s.restores k).request⟩

/-- The frame a segment of task `k` runs on: progress object `ref`, the shared `work_dir`, the
task's calls and its local `health_report`. -/
def frameOf (s : Orchestrator) (k ref : Nat) (healthReport : List (String × Value)) : Frame :=
  ⟨(s.restores ref).progress, s.workdir, (s.restores k).calls, healthReport⟩

/-- Write back what a segment of task `k` changed in its frame `f`. -/
def writeBack (s : Orchestrator) (k ref : Nat) (f : Frame) : Orchestrator :=
  { (s.withProgress ref f.progress).withCalls k f.calls with workdir := f.workdir }

/-- Where task `k` is after a segment that ended with `res`, its progress object `ref` at `p`. -/
def settle (s : Orchestrator) (k ref : Nat) (res : Except String Next) (p : RestoreProgress)
    (healthReport : List (String × Value)) : Orchestrator :=
  match res with
  | .ok (.await pc) => s.withTask k (.suspended ref pc healthReport)
  | .ok .returned => s.terminate k ref (completedProgress p) none
  | .error msg => s.terminate k ref (failedProgress p msg) (some msg)

/-- Run a segment of task `k`, which holds progress object `ref` and the local `healthReport`. -/
def runSegment (s : Orchestrator) (k ref : Nat) (healthReport : List (String × Value))
    (segment : TaskM Next) : Orchestrator :=
  let (res, f) := segment.run (s.frameOf k ref healthReport)
  (s.writeBack k ref f).settle k ref res f.progress f.healthReport

/-- Task `k` takes one step: the awaited call returns `reply`. -/
def resume (s : Orchestrator) (k : Nat) (reply : Reply) : Orchestrator :=
  if k < s.started then
    match (s.restores k).task with
    | .spawned =>
        match s.activeRestores (s.restores k).request.restoreId with
        | none => s.withTask k (.crashed (Value.quote (s.restores k).request.restoreId))
        | some ref => s.runSegment k ref [] phasePlanningStart
    | .suspended ref pc healthReport =>
        s.runSegment k ref healthReport (resumeAt (s.ctxOf k) pc reply)
    | .finished | .crashed _ => s
  else s

end Orchestrator

/-! ## Runs -/

/-- One step of the orchestrator's environment. -/
inductive Event where
  | startRestore (request : RestoreRequest) (validation : Option String)
  | cancelRestore (restoreId : String)
  | getRestoreStatus (restoreId : String)
  | resume (task : Nat) (reply : Reply)
  | tick

namespace Orchestrator

/-- The state after one event. -/
def step (s : Orchestrator) : Event → Orchestrator
  | .startRestore request validation =>
      match s.startRestore request validation with
      | .ok (_, s') => s'
      | .error _ => s
  | .cancelRestore restoreId => (s.cancelRestore restoreId).2
  | .getRestoreStatus _ => s
  | .resume k reply => s.resume k reply
  | .tick => { s with clock := s.clock + 1 }

@[simp] theorem step_startRestore_none (s : Orchestrator) (request : RestoreRequest) :
    s.step (.startRestore request none) = s.spawn request := rfl

@[simp] theorem step_startRestore_some (s : Orchestrator) (request : RestoreRequest) (msg : String) :
    s.step (.startRestore request (some msg)) = s := rfl

theorem step_cancelRestore (s : Orchestrator) (restoreId : String) :
    s.step (.cancelRestore restoreId) =
      { s with activeRestores := Function.update s.activeRestores restoreId none } := by
  simp only [step, cancelRestore]
  split
  · rfl
  · rename_i h
    rw [← h, Function.update_eq_self]

@[simp] theorem step_getRestoreStatus (s : Orchestrator) (restoreId : String) :
    s.step (.getRestoreStatus restoreId) = s := rfl

@[simp] theorem step_resume (s : Orchestrator) (k : Nat) (reply : Reply) :
    s.step (.resume k reply) = s.resume k reply := rfl

@[simp] theorem step_tick (s : Orchestrator) : s.step .tick = { s with clock := s.clock + 1 } := rfl

/-- The state after a run of events. -/
def run (s : Orchestrator) (events : List Event) : Orchestrator :=
  events.foldl step s

/-- The states along a run, the first and the last included. -/
def trace (s : Orchestrator) : List Event → List Orchestrator
  | [] => [s]
  | e :: es => s :: (s.step e).trace es

/-- The events of a run, each with the state it is applied to. -/
def transitions : Orchestrator → List Event → List (Orchestrator × Event)
  | _, [] => []
  | s, e :: es => (s, e) :: (s.step e).transitions es

@[simp] theorem trace_head? (s : Orchestrator) (es : List Event) : (s.trace es).head? = some s := by
  cases es <;> rfl

/-- A property that holds at `s` and that every event of a run keeps, under the side condition `P`
the run meets at each of its events, holds at every state of the run; and when each such step also
relates its two states by `R`, the states of the run form an `R`-chain. -/
theorem trace_chain {I : Orchestrator → Prop} {P : Orchestrator → Event → Prop}
    {R : Orchestrator → Orchestrator → Prop}
    (hstep : ∀ s e, I s → P s e → I (s.step e) ∧ R s (s.step e)) :
    ∀ {s : Orchestrator} {es : List Event}, I s → (∀ q ∈ s.transitions es, P q.1 q.2) →
      (s.trace es).Chain' R ∧ ∀ t ∈ s.trace es, I t
  | _, [], hs, _ => ⟨List.chain'_singleton _, by simpa [trace] using hs⟩
  | s, e :: es, hs, hP => by
      simp only [transitions, List.mem_cons, forall_eq_or_imp] at hP
      obtain ⟨hs', hR⟩ := hstep s e hs hP.1
      obtain ⟨hchain, hall⟩ := trace_chain hstep hs' hP.2
      simp only [trace, List.mem_cons, forall_eq_or_imp]
      exact ⟨hchain.cons' (by simpa using hR), hs, hall⟩

/-- Each event of a run is one of its events, and the run goes on from the state it leads to. -/
theorem mem_transitions : ∀ {s : Orchestrator} {es : List Event} {q : Orchestrator × Event},
    q ∈ s.transitions es → q.2 ∈ es ∧ ∃ rest, (q.1.step q.2).run rest = s.run es
  | _, [], _, h => by cases h
  | s, e :: es, q, h => by
      simp only [transitions, List.mem_cons] at h
      rcases h with rfl | h
      · exact ⟨List.mem_cons_self _ _, es, rfl⟩
      · obtain ⟨hmem, rest, hrun⟩ := mem_transitions h
        exact ⟨List.mem_cons_of_mem _ hmem, rest, hrun⟩

theorem run_mem_trace : ∀ (s : Orchestrator) (es : List Event), s.run es ∈ s.trace es
  | _, [] => List.mem_singleton_self _
  | s, e :: es => List.mem_cons_of_mem _ (run_mem_trace (s.step e) es)

theorem mem_trace_of_mem_transitions : ∀ {s : Orchestrator} {es : List Event}
    {q : Orchestrator × Event}, q ∈ s.transitions es → q.1 ∈ s.trace es
  | _, [], _, h => by cases h
  | s, e :: es, q, h => by
      simp only [transitions, List.mem_cons] at h
      rcases h with rfl | h
      · exact List.mem_cons_self _ _
      · exact List.mem_cons_of_mem _ (mem_trace_of_mem_transitions h)

/-- The state after the first `n` events is a state of the run. -/
theorem run_take_mem_trace : ∀ (s : Orchestrator) (es : List Event) (n : Nat),
    s.run (es.take n) ∈ s.trace es
  | s, [], _ => by rw [List.take_nil]; exact List.mem_singleton_self s
  | _, _ :: _, 0 => List.mem_cons_self _ _
  | s, e :: es, n + 1 => List.mem_cons_of_mem _ (run_take_mem_trace (s.step e) es n)

/-- Event `n` of a run is applied to the state after the first `n` events. -/
theorem run_take_mem_transitions : ∀ (s : Orchestrator) (es : List Event) (n : Nat) (e : Event),
    es.get? n = some e → (s.run (es.take n), e) ∈ s.transitions es
  | _, [], _, _, h => by cases h
  | _, _ :: _, 0, _, h => by cases h; exact List.mem_cons_self _ _
  | s, e' :: es, n + 1, e, h => List.mem_cons_of_mem _ (run_take_mem_transitions (s.step e') es n e h)

@[simp] theorem run_nil (s : Orchestrator) : s.run [] = s := rfl

@[simp] theorem run_cons (s : Orchestrator) (e : Event) (es : List Event) :
    s.run (e :: es) = (s.step e).run es := rfl

theorem run_append (s : Orchestrator) (es fs : List Event) :
    s.run (es ++ fs) = (s.run es).run fs := by
  simp [run, List.foldl_append]

end Orchestrator

end Restore
end Tkkube
