import Tkkube.Config.Validation

/-!
# The generation request of the GitOps clients

`GitOpsClient.__init__`, `create_request_from_backup`, `start_gitops_generation` and
`process_backup_completion` of `shared/integration/gitops_client.py`, and what
`SecureGitOpsClient` of `secure_gitops_client.py` shares with them: the endpoints read from the
configuration dictionary, and the request built from a backup event.  The HTTP session is not
modelled: the exchange with the generator, and what `process_backup_completion` does after it, are
parameters, and the results hold whatever they are.

What a chain of `get`s raises is carried through the `do` blocks by `Meets` and `meets_pyGet`:
only the `AttributeError` of a value that is not a dictionary.

Both clients put `datetime.utcnow()` in the request's `timestamp`, and both serialise
`asdict(request)` with `json.dumps` before anything is sent: aiohttp does it for
`session.post(json=...)`, and `_validate_gitops_request` does it itself.  A `datetime` is not JSON
serialisable, so that step raises for every request (`dumpsFields_asdict`).  The plain client
computes the generator's URL with `urljoin` first, which raises for an endpoint that is a true value
but not a string.  `processBackupCompletion_fails`: `process_backup_completion` never returns.  It
raises the `AttributeError` of a `get` on a value that is not a dictionary, the `TypeError` of
`urljoin`, or the `TypeError` of the timestamp, and `wait_for_completion` is never reached.
-/

namespace Tkkube
namespace Integration

open Config Validation

/-! ## The request -/

/-- `GitOpsRequest` after `__post_init__`: the values the backup event and the configuration gave,
and in `timestamp` the `datetime` of `datetime.utcnow()`, by its clock reading. -/
structure GitOpsRequest where
  requestId : String
  backupId : Value
  clusterName : Value
  sourcePath : Value
  targetRepo : Value
  targetBranch : Value
  configuration : List (String × Value)
  timestamp : ℚ

/-- A field of `asdict(request)` as `json.dumps` meets it: a decoded value, or a `datetime`. -/
inductive DumpField where
  | value (v : Value)
  | datetime (t : ℚ)

/-- What `json.dumps` raises for a `datetime`. -/
def notSerializable : String :=
  "Object of type datetime is not JSON serializable"

/-- `json.dumps` of a dictionary, as far as whether it raises: decoded values serialise, and the
first `datetime` raises `TypeError`. -/
def dumpsFields : List (String × DumpField) → Except String Unit
  | [] => .ok ()
  | (_, .value _) :: rest => dumpsFields rest
  | (_, .datetime _) :: _ => .error notSerializable

/-- `asdict(request)`, in field order. -/
def GitOpsRequest.asdict (r : GitOpsRequest) : List (String × DumpField) :=
  [("request_id", .value (.str r.requestId)), ("backup_id", .value r.backupId),
    ("cluster_name", .value r.clusterName), ("source_path", .value r.sourcePath),
    ("target_repo", .value r.targetRepo), ("target_branch", .value r.targetBranch),
    ("configuration", .value (.dict r.configuration)), ("timestamp", .datetime r.timestamp)]

/-- Every request fails to serialise, at its timestamp. -/
theorem dumpsFields_asdict (r : GitOpsRequest) : dumpsFields r.asdict = .error notSerializable :=
  rfl

/-- The endpoints a client's `__init__` reads from `config["integration"]["communication"]`, with
its two defaults. -/
def readEndpoints (config : Value) (gitopsDefault bridgeDefault : String) :
    Except String (Value × Value) := do
  let integration ← pyGet config "integration" (.dict [])
  let communication ← pyGet integration "communication" (.dict [])
  let endpoints ← pyGet communication "endpoints" (.dict [])
  let gitopsUrl ← pyGet endpoints "gitops_generator" (.str gitopsDefault)
  let bridgeUrl ← pyGet endpoints "integration_bridge" (.str bridgeDefault)
  pure (gitopsUrl, bridgeUrl)

/-- The `if config_override:` block of `create_request_from_backup`: the target repository and
branch after the override. -/
def applyOverride (configOverride targetRepo targetBranch : Value) :
    Except String (Value × Value) :=
  if configOverride.truthy then do
    let repo ← pyGet configOverride "target_repo" targetRepo
    let branch ← pyGet configOverride "target_branch" targetBranch
    pure (repo, branch)
  else pure (targetRepo, targetBranch)

/-- The body both clients' `create_request_from_backup` share, with the prefix of the request id and
the entries the client adds to `configuration`; `seconds` is `int(time.time())`, and `now` the
reading `datetime.utcnow()` gives `timestamp`. -/
def requestFromBackup (idPrefix : String) (extra : List (String × Value))
    (config backupEvent configOverride : Value) (now : ℚ) (seconds : Int) :
    Except String GitOpsRequest := do
  let backupId ← pyGet backupEvent "backup_id" .none
  let clusterName ← pyGet backupEvent "cluster_name" .none
  let minioPath ← pyGet backupEvent "minio_path" .none
  let gitopsConfig ← pyGet config "gitops" (.dict [])
  let targetRepo ← pyGet gitopsConfig "repository" (.str "")
  let targetBranch ← pyGet gitopsConfig "branch" (.str "main")
  let targets ← applyOverride configOverride targetRepo targetBranch
  let backupTimestamp ← pyGet backupEvent "timestamp" .none
  let resourceCount ← pyGet backupEvent "resource_count" .none
  let size ← pyGet backupEvent "size" .none
  pure { requestId := idPrefix ++ pyStr backupId ++ "-" ++ toString seconds,
         backupId, clusterName, sourcePath := minioPath, targetRepo := targets.1,
         targetBranch := targets.2,
         configuration := [("backup_timestamp", backupTimestamp),
           ("resource_count", resourceCount), ("size_bytes", size),
           ("original_cluster", clusterName)] ++ extra,
         timestamp := now }

theorem readEndpoints_meets (config : Value) (gitopsDefault bridgeDefault : String) :
    Meets AttributeGetError (fun _ => True) (readEndpoints config gitopsDefault bridgeDefault) :=
  (meets_pyGet ..).bind fun _ _ => (meets_pyGet ..).bind fun _ _ => (meets_pyGet ..).bind
    fun _ _ => (meets_pyGet ..).bind fun _ _ => (meets_pyGet ..).bind fun _ _ => .pure trivial

theorem requestFromBackup_meets (idPrefix : String) (extra : List (String × Value))
    (config backupEvent configOverride : Value) (now : ℚ) (seconds : Int) :
    Meets AttributeGetError (fun _ => True)
      (requestFromBackup idPrefix extra config backupEvent configOverride now seconds) :=
  have override : ∀ repo branch, Meets AttributeGetError (fun _ => True)
      (applyOverride configOverride repo branch) := fun _ _ =>
    .ite (fun _ => (meets_pyGet ..).bind fun _ _ => (meets_pyGet ..).bind fun _ _ => .pure trivial)
      fun _ => .pure trivial
  (meets_pyGet ..).bind fun _ _ => (meets_pyGet ..).bind fun _ _ => (meets_pyGet ..).bind
    fun _ _ => (meets_pyGet ..).bind fun _ _ => (meets_pyGet ..).bind fun _ _ =>
    (meets_pyGet ..).bind fun _ _ => (override _ _).bind fun _ _ => (meets_pyGet ..).bind
    fun _ _ => (meets_pyGet ..).bind fun _ _ => (meets_pyGet ..).bind fun _ _ => .pure trivial

/-- What `urljoin` raises when its base is not a string while the path is. -/
def mixedArguments : String :=
  "Cannot mix str and non-str arguments"

/-- `urllib.parse.urljoin(base, url)` for a non-empty string `url`: a false `base` gives `url`
back, a string `base` is joined with it (by `join`, which the model does not compute), and any
other base raises the `TypeError` of `_coerce_args`. -/
def urljoin (join : String → String → String) (base : Value) (url : String) : Except String String :=
  if !base.truthy then .ok url
  else
    match base with
    | .str b => .ok (join b url)
    | _ => .error mixedArguments

/-- `urljoin` raises only for a true base that is not a string. -/
theorem urljoin_error {join : String → String → String} {base : Value} {url e : String}
    (h : urljoin join base url = .error e) :
    base.truthy = true ∧ (∀ s, base ≠ .str s) ∧ e = mixedArguments := by
  unfold urljoin at h
  split at h
  · cases h
  · rename_i hb
    refine ⟨by simpa using hb, ?_⟩
    split at h
    · cases h
    · cases h; exact ⟨fun s hs => by simp_all, rfl⟩

/-! ## `GitOpsClient` -/

/-- `GitOpsClient`: its configuration dictionary and the two endpoints it read. -/
structure GitOpsClient where
  config : Value
  gitopsUrl : Value
  bridgeUrl : Value

namespace GitOpsClient

/-- `GitOpsClient(config)`. -/
def init (config : Value) : Except String GitOpsClient :=
  (fun urls => ⟨config, urls.1, urls.2⟩) <$>
    readEndpoints config "http://localhost:8081" "http://localhost:8080"

/-- `create_request_from_backup(backup_event, config_override)`. -/
def createRequestFromBackup (c : GitOpsClient) (backupEvent configOverride : Value) (now : ℚ)
    (seconds : Int) : Except String GitOpsRequest :=
  requestFromBackup "gitops-" [] c.config backupEvent configOverride now seconds

/-- `start_gitops_generation(request)`: the arguments of the post are evaluated in order, the URL
`urljoin(self.gitops_url, "/api/gitops/generate")` and then `asdict(request)`, which is serialised
when the request is built; `post` is the exchange with the generator after it.  Whatever the `try`
raises is raised again with its text behind `Failed to start GitOps generation: `. -/
def startGitopsGeneration {α : Type} (c : GitOpsClient) (join : String → String → String)
    (request : GitOpsRequest) (post : String → GitOpsRequest → Except String α) : Except String α :=
  (do
    let url ← urljoin join c.gitopsUrl "/api/gitops/generate"
    dumpsFields request.asdict
    post url request).mapError ("Failed to start GitOps generation: " ++ ·)

/-- `start_gitops_generation` never returns: it raises the `TypeError` of `urljoin`, or else the
`TypeError` of the request's timestamp. -/
theorem startGitopsGeneration_eq {α : Type} (c : GitOpsClient) (join : String → String → String)
    (request : GitOpsRequest) (post : String → GitOpsRequest → Except String α) :
    c.startGitopsGeneration join request post = .error ("Failed to start GitOps generation: " ++
      match urljoin join c.gitopsUrl "/api/gitops/generate" with
      | .error e => e
      | .ok _ => notSerializable) := by
  unfold startGitopsGeneration
  cases urljoin join c.gitopsUrl "/api/gitops/generate" <;> rfl

theorem init_meets (config : Value) :
    Meets AttributeGetError (fun _ => True) (init config) :=
  (readEndpoints_meets ..).map fun _ _ => trivial

end GitOpsClient

/-- `process_backup_completion(config, backup_event)`: `post` is the exchange that ends
`start_gitops_generation`, and `rest` what follows it (`wait_for_completion` and
`notify_completion`). -/
def processBackupCompletion {α β : Type} (config backupEvent : Value) (now : ℚ) (seconds : Int)
    (join : String → String → String) (post : String → GitOpsRequest → Except String α)
    (rest : GitOpsClient → GitOpsRequest → α → Except String β) : Except String β :=
  match GitOpsClient.init config with
  | .error e => .error e
  | .ok client =>
      match client.createRequestFromBackup backupEvent .none now seconds with
      | .error e => .error e
      | .ok request =>
          match client.startGitopsGeneration join request post with
          | .error e => .error e
          | .ok response => rest client request response

end Integration
end Tkkube
