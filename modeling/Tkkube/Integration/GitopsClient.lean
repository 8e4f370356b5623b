import Mathlib.Algebra.Order.Field.Rat
import Mathlib.Tactic.NormNum

/-!
# Waiting for a GitOps generation

`GitOpsClient.wait_for_completion` of `integration/gitops_client.py` polls `get_gitops_status`
until the generation completes or `timeout` seconds have passed since the call;
`process_backup_completion` calls it with the default timeout of 600 seconds.  Neither the clock nor
the status service is under the client's control, so a run is given a tape of polls: each is the
clock reading of one loop check and what the status endpoint does on the request made when that
check passes.  `asyncio.sleep` only moves the clock, so it is seen in the readings alone; the
monitoring counters are not modelled.

`waitForCompletion_eq_spec`: the outcome is that of the first poll that decides it (the deadline has
passed, or the endpoint reported `completed`), and the log holds one line for each raising poll
before it.  A `failed` or unknown status is raised inside the `try` that catches transient errors,
so it decides nothing: the loop logs it and polls again (`waitForCompletion_of_ne_completed`).
Every status returned is `completed` and every error raised is the timeout.
-/

namespace Tkkube
namespace Integration

/-- The fields of `GitOpsStatus` that `wait_for_completion` reads. -/
structure GitOpsStatus where
  status : String
  errorMessage : Option String
  deriving DecidableEq, Repr

/-- What the status endpoint does on one request: the connection raises with an error text, or the
server answers with an HTTP status and a body, which the conversion to `GitOpsStatus(**data)`
decodes or raises on. -/
inductive Response where
  | failed (error : String)
  | answered (code : Nat) (body : Except String GitOpsStatus)

/-- The body of the `try` of `get_gitops_status`. -/
def fetchStatus (requestId : String) : Response → Except String GitOpsStatus
  | .failed error => .error error
  | .answered code body =>
      if code = 200 then body
      else if code = 404 then .error ("GitOps request not found: " ++ requestId)
      else .error ("Failed to get status: " ++ toString code)

/-- `get_gitops_status(request_id)`: its `except` wraps every error it meets. -/
def getGitopsStatus (requestId : String) (response : Response) : Except String GitOpsStatus :=
  (fetchStatus requestId response).mapError ("Failed to get GitOps status: " ++ ·)

/-- `f"{status.error_message}"`. -/
def showOptional : Option String → String
  | some text => text
  | none => "None"

/-- The body of the `try` in the loop of `wait_for_completion`: `some status` is returned, `none`
sleeps and polls again, and an error goes to the `except`. -/
def checkStatus (polled : Except String GitOpsStatus) : Except String (Option GitOpsStatus) := do
  let status ← polled
  if status.status = "completed" then
    return some status
  else if status.status = "failed" then
    throw ("GitOps generation failed: " ++ showOptional status.errorMessage)
  else if status.status ∈ ["running", "pending"] then
    return none
  else
    throw ("Unknown GitOps status: " ++ status.status)

/-- One loop check: the clock reading compared in `time.time() - start_time < timeout`, and what
the status endpoint does on the request made when the check passes. -/
structure Poll where
  clock : ℚ
  response : Response

/-- Where `wait_for_completion` stands after a tape of polls. -/
inductive Outcome where
  | waiting
  | returned (status : GitOpsStatus)
  | raised (error : String)
  deriving DecidableEq, Repr

/-- The error raised after the loop. -/
def timedOut (timeout : Int) : String :=
  "GitOps generation timed out after " ++ toString timeout ++ " seconds"

/-- The line the loop's `except` logs for an error. -/
def errorLine (error : String) : String :=
  "Error while waiting for completion: " ++ error

/-- `wait_for_completion(request_id, timeout)` called at the clock reading `start`, over a tape of
polls: the outcome, and the lines given to `logger.error`. -/
def waitForCompletion (requestId : String) (timeout : Int) (start : ℚ) :
    List Poll → Outcome × List String
  | [] => (.waiting, [])
  | poll :: rest =>
      if poll.clock - start < timeout then
        match checkStatus (getGitopsStatus requestId poll.response) with
        | .ok (some status) => (.returned status, [])
        | .ok none => waitForCompletion requestId timeout start rest
        | .error error =>
            let run := waitForCompletion requestId timeout start rest
            (run.1, errorLine error :: run.2)
      else (.raised (timedOut timeout), [])

/-- The `try` hands back exactly a polled `completed` status. -/
theorem checkStatus_eq_some_iff {polled : Except String GitOpsStatus} {status : GitOpsStatus} :
    checkStatus polled = .ok (some status) ↔ polled = .ok status ∧ status.status = "completed" := by
  rcases polled with error | polled
  · simp [checkStatus, bind, Except.bind]
  · simp only [checkStatus, bind, Except.bind, Except.ok.injEq]
    split_ifs with hc <;> simp [pure, Except.pure, throw, throwThe, MonadExceptOf.throw, hc] <;>
      rintro rfl <;> simp_all

section Spec

variable (requestId : String) (timeout : Int) (start : ℚ)

/-- What one poll decides: the deadline has passed, or the endpoint reported the status the loop
returns; `none` when the loop goes on. -/
def verdict (poll : Poll) : Option Outcome :=
  if poll.clock - start < timeout then
    match checkStatus (getGitopsStatus requestId poll.response) with
    | .ok (some status) => some (.returned status)
    | _ => none
  else some (.raised (timedOut timeout))

/-- The line logged by a poll that decides nothing. -/
def logLine (poll : Poll) : Option String :=
  match checkStatus (getGitopsStatus requestId poll.response) with
  | .error error => some (errorLine error)
  | .ok _ => none

/-- What the loop is for: the outcome of the first poll that decides, `waiting` while none has,
with a line for every raising poll before it. -/
def waitSpec (polls : List Poll) : Outcome × List String :=
  ((polls.findSome? (verdict requestId timeout start)).getD .waiting,
    (polls.takeWhile fun poll => (verdict requestId timeout start poll).isNone).filterMap
      (logLine requestId))

/-- The loop meets its purpose on every tape. -/
theorem waitForCompletion_eq_spec (polls : List Poll) :
    waitForCompletion requestId timeout start polls = waitSpec requestId timeout start polls := by
  induction polls with
  | nil => rfl
  | cons poll rest ih =>
      by_cases hc : poll.clock - start < timeout
      · rcases hs : checkStatus (getGitopsStatus requestId poll.response) with
          error | _ | status <;> simp [waitForCompletion, waitSpec, verdict, logLine, hc, hs, ih]
      · simp [waitForCompletion, waitSpec, verdict, hc]

/-- A poll decides by the deadline or by a `completed` status, and by nothing else. -/
theorem verdict_eq_some {poll : Poll} {outcome : Outcome}
    (h : verdict requestId timeout start poll = some outcome) :
    outcome = .raised (timedOut timeout) ∨
      ∃ status, outcome = .returned status ∧ status.status = "completed" := by
  unfold verdict at h
  split_ifs at h
  · split at h
    · cases h; exact .inr ⟨_, rfl, (checkStatus_eq_some_iff.mp ‹_›).2⟩
    · cases h
  · cases h; exact .inl rfl

/-- A status other than `completed` polled before the deadline decides nothing. -/
theorem verdict_of_ne_completed {poll : Poll} (hc : poll.clock - start < timeout)
    {status : GitOpsStatus} (hs : getGitopsStatus requestId poll.response = .ok status)
    (hn : status.status ≠ "completed") : verdict requestId timeout start poll = none := by
  unfold verdict
  rw [if_pos hc]
  split
  · rename_i found h
    obtain ⟨h, hdone⟩ := checkStatus_eq_some_iff.mp h
    rw [hs, Except.ok.injEq] at h
    exact absurd (h ▸ hdone) hn
  · rfl

/-- Whatever the tape, the loop is still waiting, has raised the timeout, or has returned a
`completed` status. -/
theorem waitForCompletion_outcome (polls : List Poll) :
    (waitForCompletion requestId timeout start polls).1 = .waiting ∨
      (waitForCompletion requestId timeout start polls).1 = .raised (timedOut timeout) ∨
      ∃ status, (waitForCompletion requestId timeout start polls).1 = .returned status ∧
        status.status = "completed" := by
  rw [waitForCompletion_eq_spec]
  cases hf : polls.findSome? (verdict requestId timeout start) with
  | none => exact .inl (by simp [waitSpec, hf])
  | some outcome =>
      obtain ⟨poll, -, hp⟩ := List.exists_of_findSome?_eq_some hf
      simpa [waitSpec, hf] using .inr (verdict_eq_some requestId timeout start hp)

/-- A poll before the deadline whose status is not `completed` changes nothing but the log. -/
theorem waitForCompletion_of_ne_completed {poll : Poll} (rest : List Poll)
    (hc : poll.clock - start < timeout) {status : GitOpsStatus}
    (hs : getGitopsStatus requestId poll.response = .ok status) (hn : status.status ≠ "completed") :
    (waitForCompletion requestId timeout start (poll :: rest)).1 =
      (waitForCompletion requestId timeout start rest).1 := by
  have hv : (verdict requestId timeout start poll).isNone := by
    rw [verdict_of_ne_completed requestId timeout start hc hs hn]; rfl
  simp only [waitForCompletion_eq_spec, waitSpec, List.findSome?_cons_of_isNone _ hv]

end Spec

/-- A `failed` status with the error text `boom`, answered with `200`. -/
def failedBoom : Response :=
  .answered 200 (.ok ⟨"failed", some "boom"⟩)

/-- The generation reported failed at the call, and again once the deadline has passed. -/
def failedThenLate : List Poll :=
  [⟨0, failedBoom⟩, ⟨600, failedBoom⟩]

theorem waitForCompletion_failedThenLate :
    waitForCompletion "g" 600 0 failedThenLate =
      (.raised "GitOps generation timed out after 600 seconds",
        ["Error while waiting for completion: GitOps generation failed: boom"]) := by
  have hpoll :
      checkStatus (getGitopsStatus "g" failedBoom) = .error "GitOps generation failed: boom" := rfl
  have hearly : (0 : ℚ) - 0 < ((600 : Int) : ℚ) := by norm_num
  have hlate : ¬ (600 : ℚ) - 0 < ((600 : Int) : ℚ) := by norm_num
  simp only [waitForCompletion, failedThenLate, if_pos hearly, if_neg hlate, hpoll]
  rfl

/-- **A failed generation is swallowed.**  For every request, timeout, start and tape of polls,
`wait_for_completion` returns only a `completed` status and raises only the timeout error; a status
other than `completed` polled before the deadline, `failed` included, leaves the outcome to the polls
after it.  A generation reported failed at the call and polled again at the deadline (the default
timeout of 600 seconds) ends in the timeout error, with the failure only in the log. -/
theorem wait_for_completion_swallows_failure :
    (∀ (requestId : String) (timeout : Int) (start : ℚ) polls status,
        (waitForCompletion requestId timeout start polls).1 = .returned status →
          status.status = "completed") ∧
      (∀ (requestId : String) (timeout : Int) (start : ℚ) polls error,
        (waitForCompletion requestId timeout start polls).1 = .raised error →
          error = timedOut timeout) ∧
      (∀ (requestId : String) (timeout : Int) (start : ℚ) (poll : Poll) rest status,
        poll.clock - start < timeout →
        getGitopsStatus requestId poll.response = .ok status → status.status ≠ "completed" →
          (waitForCompletion requestId timeout start (poll :: rest)).1 =
            (waitForCompletion requestId timeout start rest).1) ∧
      waitForCompletion "g" 600 0 failedThenLate =
        (.raised "GitOps generation timed out after 600 seconds",
          ["Error while waiting for completion: GitOps generation failed: boom"]) := by
  refine ⟨fun requestId timeout start polls status h => ?_,
    fun requestId timeout start polls error h => ?_, fun requestId timeout start _ rest _ hc hs hn =>
      waitForCompletion_of_ne_completed requestId timeout start rest hc hs hn,
    waitForCompletion_failedThenLate⟩
  · rcases waitForCompletion_outcome requestId timeout start polls with
      h' | h' | ⟨found, h', hdone⟩ <;> rw [h'] at h <;> cases h
    exact hdone
  · rcases waitForCompletion_outcome requestId timeout start polls with
      h' | h' | ⟨found, h', -⟩ <;> rw [h'] at h <;> cases h
    rfl

end Integration
end Tkkube
