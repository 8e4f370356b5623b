import Tkkube.Triggers.GitopsTrigger

/-!
# The backup-complete webhook

`WebhookRequestHandler._handle_backup_complete_webhook` of `shared/triggers/webhook_handler.py`,
with `_validate_webhook_payload`, the answers it sends and the `POST` routing.  The transport is
not modelled: a request is what `int(self.headers.get('Content-Length', 0))` gives and what
reading, decoding and `json.loads` make of the body; an answer is its status code and the object
`_send_response` serialises.  The trigger handler is a parameter, so every result holds whatever
`handle_backup_completion` answers; `serverWebhook` is the one `WebhookServer` installs.  The logger
lines are not modelled.

A run returns the answer and the events passed to `handle_backup_completion`:

* `calls_length_le_one`, `mem_calls`: the trigger is called at most once, with the event the
  handler's `try` built;
* `handle_nested`: a payload that passes validation and nests a complete set of fields under
  `backup` calls the trigger once with the event the fields describe and is answered 200 or 500;
  on the server the answer is 200 exactly when the generation is disabled or ran
  (`serverWebhook_nested`);
* `handle_of_lookup_none`: a dictionary without a `backup` key is always answered 400 without
  calling the trigger.  When its `event_type` is `backup_complete` its event data is the whole
  payload, and `event_type` is not a field of `BackupCompletionEvent`, so `from_dict` raises on it;
* `calls_only_nested`: the trigger is called only for a dictionary with a `backup` key.
-/

namespace Tkkube
namespace Triggers

open Config Validation

/-- How reading the body fails.  Both calls are inside the inner `try`, which catches only
`JSONDecodeError`: the `UnicodeDecodeError` of `body.decode('utf-8')` escapes it to the outer
handler, and the `JSONDecodeError` of `json.loads` is answered there. -/
inductive BodyError where
  | undecodable (error : String)
  | invalidJson (error : String)

/-- What the handler reads of a request: `int(self.headers.get('Content-Length', 0))`, and what
reading that many bytes and decoding them give. -/
structure Request where
  contentLength : Except String Int
  body : Except BodyError Value

/-- An answer: its status code and the object `_send_response` serialises. -/
structure Response where
  status : Nat
  body : Value

/-- `_send_error(status_code, message)`, sent at the clock reading `now`. -/
def sendError (now : Datetime) (status : Nat) (message : String) : Response :=
  ⟨status, .dict [("error", .str message), ("status_code", .int status),
    ("timestamp", .str now.isoformat)]⟩

/-- `required_fields` of `_validate_webhook_payload`. -/
def payloadFields : List String :=
  ["backup_id", "cluster_name", "timestamp", "success"]

/-- `_validate_webhook_payload(data)`. -/
def validateWebhookPayload (data : Value) : Except String Bool := do
  if ← pyContains data "event_type" then
    if !isStr (← pyGetItem data "event_type") "backup_complete" then
      return false
  let backupData ← pyGet data "backup" data
  payloadFields.allM fun field => pyContains backupData field

/-- The `if`/`elif` that picks the event data: `data['backup']` when present, else the payload
itself when its `event_type` is `backup_complete`; `none` is answered `Missing backup event data`. -/
def extractEventData (data : Value) : Except String (Option Value) := do
  if ← pyContains data "backup" then
    return some (← pyGetItem data "backup")
  else if ← pyContains data "event_type" then
    if isStr (← pyGetItem data "event_type") "backup_complete" then
      return some data
    else
      return none
  else
    return none

/-- Where the handler's `try` stands before the trigger: an answer sent, or the event built. -/
inductive Received where
  | answered (response : Response)
  | event (event : BackupCompletionEvent)

/-- The `try` from the parsed payload up to the call of the trigger: validation, the choice of the
event data, and `from_dict`; an error is what escapes to the outer `except`. -/
def receiveData (dt : Datetimes) (now : Datetime) (data : Value) : Except String Received := do
  if !(← validateWebhookPayload data) then
    return .answered (sendError now 400 "Invalid webhook payload")
  else
    match ← extractEventData data with
    | none => return .answered (sendError now 400 "Missing backup event data")
    | some eventData =>
        match fromDict dt eventData with
        | .error e => return .answered (sendError now 400 ("Invalid backup event data: " ++ e))
        | .ok event => return .event event

/-- The `try` up to the call of the trigger. -/
def receive (dt : Datetimes) (now : Datetime) (request : Request) : Except String Received := do
  let contentLength ← request.contentLength
  if contentLength = 0 then
    return .answered (sendError now 400 "Empty request body")
  else
    match request.body with
    | .error (.undecodable error) => throw error
    | .error (.invalidJson error) => return .answered (sendError now 400 ("Invalid JSON: " ++ error))
    | .ok data => receiveData dt now data

/-- The answer built from the trigger's result: 200 with its output and metadata on success, 500
with its error otherwise; serialising a `datetime` raises. -/
def respond (event : BackupCompletionEvent) (result : GitOpsTriggerResult) :
    Except String Response := do
  let backupId ← event.backupId.toJson
  let cluster ← event.clusterName.toJson
  let answer (status : Nat) (tail : List (String × Value)) : Response :=
    ⟨status, .dict [("status", .str (if result.success then "success" else "error")),
      ("backup_id", backupId), ("cluster", cluster),
      ("trigger_result", .dict ([("success", .bool result.success),
        ("duration", .float result.duration), ("method", .str result.method),
        ("timestamp", .str result.timestamp.isoformat)] ++ tail))]⟩
  if result.success then
    match result.metadata with
    | some (entry :: rest) => do
        let metadata ← (entry :: rest).mapM fun kv => do return (kv.1, ← kv.2.toJson)
        return answer 200 [("output", .str result.output), ("metadata", .dict metadata)]
    | _ => return answer 200 [("output", .str result.output)]
  else
    return answer 500 [("error", .str result.error)]

/-- What the handler reads besides the request: the conversions `from_dict` calls, the clock, and
`self.trigger_handler.handle_backup_completion`. -/
structure Webhook where
  datetimes : Datetimes
  now : Datetime
  trigger : BackupCompletionEvent → GitOpsTriggerResult

/-- `_handle_backup_complete_webhook()`: the answer, and the events passed to
`handle_backup_completion`. -/
def handleBackupCompleteWebhook (w : Webhook) (request : Request) :
    Response × List BackupCompletionEvent :=
  match receive w.datetimes w.now request with
  | .error e => (sendError w.now 500 ("Internal server error: " ++ e), [])
  | .ok (.answered response) => (response, [])
  | .ok (.event event) =>
      match respond event (w.trigger event) with
      | .ok response => (response, [event])
      | .error e => (sendError w.now 500 ("Internal server error: " ++ e), [event])

/-- `do_POST()`. -/
def doPost (w : Webhook) (path : String) (request : Request) :
    Response × List BackupCompletionEvent :=
  if path = "/webhook/backup-complete" then handleBackupCompleteWebhook w request
  else (sendError w.now 404 "Not Found", [])

/-- The handler `WebhookServer` installs: its trigger handler's `handle_backup_completion`. -/
def serverWebhook (h : TriggerHandler) (dt : Datetimes) (now : Datetime) : Webhook :=
  ⟨dt, now, h.handleBackupCompletion⟩

/-! ## What the `try` does with a payload -/

theorem allM_pyContains_dict (entries : List (String × Value)) (keys : List String) :
    keys.allM (pyContains (.dict entries)) = .ok (keys.all (Dict.contains entries)) := by
  induction keys with
  | nil => rfl
  | cons k rest ih =>
      simp only [List.allM, List.all_cons, pyContains, bind, Except.bind]
      cases Dict.contains entries k
      · rfl
      · exact ih

/-- On a dictionary whose event data is a dictionary, validation checks `event_type` and the four
keys, and never raises. -/
theorem validateWebhookPayload_dict {entries fields : List (String × Value)}
    (hb : pyGet (.dict entries) "backup" (.dict entries) = .ok (.dict fields)) :
    validateWebhookPayload (.dict entries) =
      .ok ((entries.lookup "event_type").all (isStr · "backup_complete") &&
        payloadFields.all (Dict.contains fields)) := by
  have hall := allM_pyContains_dict fields payloadFields
  have hpe := pyContains_dict entries "event_type"
  cases he : entries.lookup "event_type" with
  | none =>
      rw [he] at hpe
      simp only [validateWebhookPayload, hpe, hb, hall, bind, Except.bind, pure, Except.pure]
      rfl
  | some v =>
      rw [he] at hpe
      simp only [validateWebhookPayload, hpe, pyGetItem_dict_of_lookup he, hb, hall, bind,
        Except.bind, pure, Except.pure]
      cases h : isStr v "backup_complete" <;> simp [h]

/-- The event data of a dictionary: its `backup`, else itself when its `event_type` is
`backup_complete`. -/
theorem extractEventData_dict (entries : List (String × Value)) :
    extractEventData (.dict entries) =
      .ok ((entries.lookup "backup").or
        (if (entries.lookup "event_type").any (isStr · "backup_complete") then some (.dict entries)
          else none)) := by
  simp only [extractEventData, pyContains_dict, bind, Except.bind, pure, Except.pure]
  cases hb : entries.lookup "backup" with
  | some v => simp only [Option.isSome_some, pyGetItem_dict_of_lookup hb]; rfl
  | none =>
      cases he : entries.lookup "event_type" with
      | none => rfl
      | some v =>
          simp only [Option.isSome_some, pyGetItem_dict_of_lookup he]
          cases h : isStr v "backup_complete" <;> simp [h]

/-- A dictionary without `backup` is answered 400 before the trigger: it fails validation, has no
event data, or is its own event data, and then its `event_type` key makes `from_dict` raise. -/
theorem receiveData_of_lookup_none (dt : Datetimes) (now : Datetime)
    {entries : List (String × Value)} (hb : entries.lookup "backup" = none) :
    ∃ response, receiveData dt now (.dict entries) = .ok (.answered response) ∧
      response.status = 400 := by
  have hv := @validateWebhookPayload_dict entries entries (by rw [pyGet_dict, hb]; rfl)
  have hx := extractEventData_dict entries
  rw [hb, Option.none_or] at hx
  cases he : entries.lookup "event_type" with
  | none =>
      rw [he] at hv hx
      simp only [receiveData, hv, hx, bind, Except.bind, pure, Except.pure]
      split <;> exact ⟨_, rfl, rfl⟩
  | some v =>
      rw [he] at hv hx
      have hmem : ("event_type", v) ∈ entries := by
        obtain ⟨l₁, l₂, h, -⟩ := List.lookup_eq_some_iff.mp he
        rw [h]; simp
      obtain ⟨e, he'⟩ := fromDict_error_of_not_field dt hmem (by decide)
      cases hs : isStr v "backup_complete"
      · simp only [Option.all_some, hs, Bool.false_and] at hv
        simp only [receiveData, hv, bind, Except.bind, pure, Except.pure]
        exact ⟨_, rfl, rfl⟩
      · simp only [Option.all_some, Option.any_some, hs, Bool.true_and, if_true] at hv hx
        simp only [receiveData, hv, hx, he', bind, Except.bind, pure, Except.pure]
        split <;> exact ⟨_, rfl, rfl⟩

/-- A valid dictionary nesting a complete set of fields under `backup` gives the event they
describe. -/
theorem receiveData_nested (dt : Datetimes) (now : Datetime) {entries fields : List (String × Value)}
    (hv : validateWebhookPayload (.dict entries) = .ok true)
    (hb : entries.lookup "backup" = some (.dict fields)) (hc : Complete fields) {stamp : Datetime}
    (hs : Denotes dt ((fields.lookup "timestamp").getD .none) stamp) :
    receiveData dt now (.dict entries) = .ok (.event (describedEvent fields stamp)) := by
  have hx : extractEventData (.dict entries) = .ok (some (.dict fields)) := by
    rw [extractEventData_dict, hb]; rfl
  simp only [receiveData, hv, hx, fromDict_of_complete dt hc hs, bind, Except.bind, pure,
    Except.pure]
  rfl

/-- Validation raises on every payload that is not a dictionary: `in` or `[]` on a list or a string,
`in` on any other value, or `.get`. -/
theorem validateWebhookPayload_of_not_dict {data : Value} (hd : ∀ entries, data ≠ .dict entries) :
    ∃ e, validateWebhookPayload data = .error e := by
  cases data
  case dict entries => exact absurd rfl (hd entries)
  case str _ | list _ =>
    simp only [validateWebhookPayload, pyContains, pyGetItem, pyGet, getEntries, bind, Except.bind]
    split <;> exact ⟨_, rfl⟩
  all_goals exact ⟨_, rfl⟩

theorem receiveData_of_not_dict (dt : Datetimes) (now : Datetime) {data : Value}
    (hd : ∀ entries, data ≠ .dict entries) : ∃ e, receiveData dt now data = .error e := by
  obtain ⟨e, he⟩ := validateWebhookPayload_of_not_dict hd
  exact ⟨e, by simp only [receiveData, he, bind, Except.bind]⟩

theorem receive_of_body {dt : Datetimes} {now : Datetime} {request : Request} {n : Int}
    {data : Value} (hl : request.contentLength = .ok n) (hn : n ≠ 0)
    (hbody : request.body = .ok data) : receive dt now request = receiveData dt now data := by
  simp only [receive, hl, hbody, hn, bind, Except.bind, if_false]

/-! ## Runs of the handler -/

/-- The answer to a trigger result is 200 on success and 500 otherwise. -/
theorem respond_status {event : BackupCompletionEvent} {result : GitOpsTriggerResult}
    {response : Response} (h : respond event result = .ok response) :
    response.status = if result.success then 200 else 500 := by
  simp only [respond, bind, Except.bind, pure, Except.pure] at h
  repeat' split at h
  all_goals cases h
  all_goals simp_all

/-- The trigger is called at most once. -/
theorem calls_length_le_one (w : Webhook) (request : Request) :
    (handleBackupCompleteWebhook w request).2.length ≤ 1 := by
  unfold handleBackupCompleteWebhook
  split
  · exact Nat.zero_le _
  · exact Nat.zero_le _
  · split <;> exact le_rfl

/-- The trigger is called with the event the `try` built, and with nothing else. -/
theorem mem_calls {w : Webhook} {request : Request} {event : BackupCompletionEvent}
    (h : event ∈ (handleBackupCompleteWebhook w request).2) :
    receive w.datetimes w.now request = .ok (.event event) := by
  unfold handleBackupCompleteWebhook at h
  split at h
  · cases h
  · cases h
  · rename_i event' hr
    have : event = event' := by split at h <;> exact List.mem_singleton.mp h
    rw [hr, this]

/-- Once the event is built, the trigger is called with it and the answer is 200 or 500. -/
theorem handle_of_event {w : Webhook} {request : Request} {event : BackupCompletionEvent}
    (h : receive w.datetimes w.now request = .ok (.event event)) :
    (handleBackupCompleteWebhook w request).2 = [event] ∧
      ((handleBackupCompleteWebhook w request).1.status = 200 ∨
        (handleBackupCompleteWebhook w request).1.status = 500) := by
  unfold handleBackupCompleteWebhook
  rw [h]
  dsimp only
  cases hr : respond event (w.trigger event) with
  | error e => exact ⟨rfl, .inr rfl⟩
  | ok response =>
      refine ⟨rfl, ?_⟩
      rw [respond_status hr]
      split <;> simp


/-- **A nested payload reaches the trigger.**  A request whose body is a valid dictionary nesting a
complete set of fields under `backup`, with a timestamp that denotes a `datetime`, calls the
trigger once, with the event the fields describe, and is answered 200 or 500. -/
theorem handle_nested (w : Webhook) {request : Request} {n : Int}
    {entries fields : List (String × Value)} (hl : request.contentLength = .ok n) (hn : n ≠ 0)
    (hbody : request.body = .ok (.dict entries))
    (hv : validateWebhookPayload (.dict entries) = .ok true)
    (hb : entries.lookup "backup" = some (.dict fields)) (hc : Complete fields) {stamp : Datetime}
    (hs : Denotes w.datetimes ((fields.lookup "timestamp").getD .none) stamp) :
    (handleBackupCompleteWebhook w request).2 = [describedEvent fields stamp] ∧
      ((handleBackupCompleteWebhook w request).1.status = 200 ∨
        (handleBackupCompleteWebhook w request).1.status = 500) :=
  handle_of_event (by rw [receive_of_body hl hn hbody, receiveData_nested _ _ hv hb hc hs])

/-- **A payload without `backup` never reaches the trigger.**  Every request whose body is a
dictionary without a `backup` key is answered 400, and the trigger is not called. -/
theorem handle_of_lookup_none (w : Webhook) {request : Request} {n : Int}
    {entries : List (String × Value)} (hl : request.contentLength = .ok n) (hn : n ≠ 0)
    (hbody : request.body = .ok (.dict entries)) (hb : entries.lookup "backup" = none) :
    (handleBackupCompleteWebhook w request).2 = [] ∧
      (handleBackupCompleteWebhook w request).1.status = 400 := by
  obtain ⟨response, hr, hs⟩ := receiveData_of_lookup_none w.datetimes w.now hb
  unfold handleBackupCompleteWebhook
  rw [receive_of_body hl hn hbody, hr]
  exact ⟨rfl, hs⟩

/-- The trigger is called only for a request whose body is a dictionary with a `backup` key. -/
theorem calls_only_nested {w : Webhook} {request : Request} {event : BackupCompletionEvent}
    (h : event ∈ (handleBackupCompleteWebhook w request).2) :
    ∃ n entries v, request.contentLength = .ok n ∧ n ≠ 0 ∧
      request.body = .ok (.dict entries) ∧ entries.lookup "backup" = some v := by
  have hr := mem_calls h
  cases hl : request.contentLength with
  | error e => simp [receive, hl, bind, Except.bind] at hr
  | ok n =>
      by_cases hn : n = 0
      · simp [receive, hl, hn, bind, Except.bind, pure, Except.pure] at hr
      cases hbody : request.body with
      | error err =>
          cases err <;> simp [receive, hl, hn, hbody, bind, Except.bind, pure, Except.pure,
            throw, throwThe, MonadExceptOf.throw] at hr
      | ok data =>
          rw [receive_of_body hl hn hbody] at hr
          by_cases hd : ∃ entries, data = .dict entries
          · obtain ⟨entries, rfl⟩ := hd
            cases hb : entries.lookup "backup" with
            | some v => exact ⟨n, entries, v, rfl, hn, rfl, hb⟩
            | none =>
                obtain ⟨response, hr', -⟩ := receiveData_of_lookup_none w.datetimes w.now hb
                rw [hr'] at hr; cases hr
          · push_neg at hd
            obtain ⟨e, he⟩ := receiveData_of_not_dict w.datetimes w.now hd
            rw [he] at hr; cases hr

/-! ## The server's trigger -/

/-- `handle_backup_completion` succeeds exactly when triggering is disabled or the generation ran. -/
theorem TriggerHandler.success_handleBackupCompletion (h : TriggerHandler)
    (event : BackupCompletionEvent) :
    (h.handleBackupCompletion event).success =
      (!h.config.pipeline.automation.enabled || (h.generate event).isOk) := by
  unfold TriggerHandler.handleBackupCompletion
  cases h.config.pipeline.automation.enabled
  · rfl
  · cases h.generate event <;> rfl

/-- The server's results serialise whenever the event's id and cluster are decoded values. -/
theorem respond_handleBackupCompletion (h : TriggerHandler) {event : BackupCompletionEvent}
    {backupId clusterName : Value} (hb : event.backupId = .value backupId)
    (hc : event.clusterName = .value clusterName) :
    ∃ response, respond event (h.handleBackupCompletion event) = .ok response := by
  unfold TriggerHandler.handleBackupCompletion
  cases h.config.pipeline.automation.enabled
  · simp [respond, hb, hc, Arg.toJson, bind, Except.bind, pure, Except.pure]
  · cases h.generate event
    · simp [respond, hb, hc, Arg.toJson, bind, Except.bind, pure, Except.pure]
    · simp only [respond, hb, hc, Arg.toJson, List.mapM_cons, List.mapM_nil, bind, Except.bind,
        pure, Except.pure, Bool.not_true, if_true]
      exact ⟨_, rfl⟩

/-- **On the server, a nested payload is answered 200 exactly when triggering is disabled or the
generation ran**, and 500 otherwise. -/
theorem serverWebhook_nested (h : TriggerHandler) (dt : Datetimes) (now : Datetime)
    {request : Request} {n : Int} {entries fields : List (String × Value)}
    (hl : request.contentLength = .ok n) (hn : n ≠ 0) (hbody : request.body = .ok (.dict entries))
    (hv : validateWebhookPayload (.dict entries) = .ok true)
    (hb : entries.lookup "backup" = some (.dict fields)) (hc : Complete fields) {stamp : Datetime}
    (hs : Denotes dt ((fields.lookup "timestamp").getD .none) stamp) :
    (handleBackupCompleteWebhook (serverWebhook h dt now) request).1.status =
      if !h.config.pipeline.automation.enabled || (h.generate (describedEvent fields stamp)).isOk
      then 200 else 500 := by
  obtain ⟨response, hr⟩ := @respond_handleBackupCompletion h (describedEvent fields stamp) _ _
    rfl rfl
  have hrecv : receive dt now request = .ok (.event (describedEvent fields stamp)) := by
    rw [receive_of_body hl hn hbody, receiveData_nested _ _ hv hb hc hs]
  unfold handleBackupCompleteWebhook
  simp only [serverWebhook, hrecv, hr]
  rw [respond_status hr, TriggerHandler.success_handleBackupCompletion]

/-! ## The two forms of a payload -/

/-- The fields of a completed backup, its timestamp in seconds since the epoch. -/
def sampleFields : List (String × Value) :=
  [("backup_id", .str "backup-1"), ("cluster_name", .str "prod"), ("timestamp", .int 1704067200),
    ("duration", .float 120), ("namespaces_count", .int 5), ("resources_count", .int 50),
    ("success", .bool true), ("errors", .list []), ("minio_bucket", .str "backups")]

/-- The fields at the top level, beside `event_type = 'backup_complete'`. -/
def topLevelPayload : Value :=
  .dict (("event_type", .str "backup_complete") :: sampleFields)

/-- The fields nested under `backup`, as `send_test_event` sends them. -/
def nestedPayload : Value :=
  .dict [("event_type", .str "backup_complete"), ("timestamp", .str "2024-01-01T00:00:00"),
    ("backup", .dict sampleFields), ("trigger", .str "test")]

/-- A request whose body decodes to `payload`. -/
def requestOf (payload : Value) : Request :=
  ⟨.ok 512, .ok payload⟩

theorem handle_topLevelPayload (w : Webhook) {d : Datetime}
    (hd : w.datetimes.fromtimestamp 1704067200 = .ok d) :
    handleBackupCompleteWebhook w (requestOf topLevelPayload) =
      (sendError w.now 400 ("Invalid backup event data: BackupCompletionEvent.__init__() got an " ++
        "unexpected keyword argument 'event_type'"), []) := by
  have hf : fromDict w.datetimes topLevelPayload = (w.datetimes.fromtimestamp 1704067200 >>=
      fun d => construct (setArg "timestamp" (.datetime d)
        (argsOf (("event_type", .str "backup_complete") :: sampleFields)))) := rfl
  rw [hd] at hf
  have hv : validateWebhookPayload topLevelPayload = .ok true := rfl
  have hx : extractEventData topLevelPayload = .ok (some topLevelPayload) := rfl
  unfold handleBackupCompleteWebhook
  rw [receive_of_body rfl (by decide) rfl]
  simp only [receiveData, hv, hx, hf, bind, Except.bind, pure, Except.pure]
  rfl

theorem handle_nestedPayload (w : Webhook) {d : Datetime}
    (hd : w.datetimes.fromtimestamp 1704067200 = .ok d) :
    (handleBackupCompleteWebhook w (requestOf nestedPayload)).2 = [describedEvent sampleFields d] :=
  (handle_nested w rfl (by decide) rfl (by exact rfl) (by exact rfl) (by decide)
    (by exact ⟨_, rfl, hd⟩)).1

/-- **Only the nested form reaches the trigger.**  A request whose body passes validation and nests a
complete set of fields under `backup`, its timestamp denoting a `datetime`, calls
`handle_backup_completion` once, with the event the fields describe, and is not answered 400.  A
request whose body is a dictionary without `backup`, the top-level form included, is answered 400
and never calls it.  The fields of a completed backup beside `event_type = 'backup_complete'` pass
validation, and `from_dict` rejects the `event_type` keyword; nested under `backup`, the same fields
reach the trigger. -/
theorem top_level_payload_never_triggers :
    (∀ (w : Webhook) (request : Request) (n : Int) (entries fields : List (String × Value))
        (stamp : Datetime),
      request.contentLength = .ok n → n ≠ 0 → request.body = .ok (.dict entries) →
      validateWebhookPayload (.dict entries) = .ok true →
      entries.lookup "backup" = some (.dict fields) → Complete fields →
      Denotes w.datetimes ((fields.lookup "timestamp").getD .none) stamp →
        (handleBackupCompleteWebhook w request).2 = [describedEvent fields stamp] ∧
          (handleBackupCompleteWebhook w request).1.status ≠ 400) ∧
      (∀ (w : Webhook) (request : Request) (n : Int) (entries : List (String × Value)),
        request.contentLength = .ok n → n ≠ 0 → request.body = .ok (.dict entries) →
        entries.lookup "backup" = none →
          (handleBackupCompleteWebhook w request).2 = [] ∧
            (handleBackupCompleteWebhook w request).1.status = 400) ∧
      validateWebhookPayload topLevelPayload = .ok true ∧ Complete sampleFields ∧
      ∀ (w : Webhook) (d : Datetime), w.datetimes.fromtimestamp 1704067200 = .ok d →
        handleBackupCompleteWebhook w (requestOf topLevelPayload) =
            (sendError w.now 400 ("Invalid backup event data: BackupCompletionEvent.__init__() " ++
              "got an unexpected keyword argument 'event_type'"), []) ∧
          (handleBackupCompleteWebhook w (requestOf nestedPayload)).2 =
            [describedEvent sampleFields d] :=
  ⟨fun w _ _ _ _ _ hl hn hbody hv hb hc hs =>
      (handle_nested w hl hn hbody hv hb hc hs).imp_right (by rintro (h | h) <;> rw [h] <;> decide),
    fun w _ _ _ hl hn hbody hb => handle_of_lookup_none w hl hn hbody hb, rfl, by decide,
    fun w _ hd => ⟨handle_topLevelPayload w hd, handle_nestedPayload w hd⟩⟩

end Triggers
end Tkkube
