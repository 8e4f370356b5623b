import Tkkube.Config.Loader

/-!
# The merge, field by field

`_merge_configs` reads eight mappings of a document, in order (`storage`, `storage.connection`,
`cluster`, `gitops.repository`, its `auth`, `backup.behavior`, `backup.cleanup`,
`observability.logging`), and from each writes a few fields of the configuration in place.  Within
one mapping every `.get` is on the same dictionary, so nothing raises between its writes; a raise
comes from `in`, from indexing, or from a section that is not a mapping.

`fieldWrites` are those eight writes, each stated as "the field takes the document's value when the
document sets one, and keeps its value otherwise" (`setting`), and `mergeSpec` is all of them.
`mergeConfigs_writes`: every run of the merge makes a prefix of the writes, all of them when it
returns.  So a merge that returns gives `mergeSpec`, and `_load_file`, which keeps the object the
merge changed in place, returns the configuration with the writes made before the raise.
-/

namespace Tkkube
namespace Config

/-! ## What the merge writes -/

/-- The value a document holds at a path of keys through nested mappings. -/
def valueAt : Value → List String → Option Value
  | v, [] => some v
  | .dict entries, key :: path => (entries.lookup key).bind fun v => valueAt v path
  | _, _ :: _ => none

/-- The value a document sets at `path` for a field of type `α`, and `current` when it sets none. -/
def setting {α : Type} [FieldValue α] (data : Value) (path : List String) (current : α) : α :=
  ((valueAt data path).bind FieldValue.ofValue?).getD current

/-- The fields written from `storage`. -/
def storageWrite (data : Value) (c : SharedConfig) : SharedConfig :=
  { c with storage := { c.storage with
    type := setting data ["storage", "type"] c.storage.type
    endpoint := setting data ["storage", "endpoint"] c.storage.endpoint
    accessKey := setting data ["storage", "access_key"] c.storage.accessKey
    secretKey := setting data ["storage", "secret_key"] c.storage.secretKey
    bucket := setting data ["storage", "bucket"] c.storage.bucket
    useSsl := setting data ["storage", "use_ssl"] c.storage.useSsl
    region := setting data ["storage", "region"] c.storage.region
    autoCreateBucket := setting data ["storage", "auto_create_bucket"] c.storage.autoCreateBucket } }

/-- The fields written from `storage.connection`. -/
def connectionWrite (data : Value) (c : SharedConfig) : SharedConfig :=
  { c with storage.connection := { c.storage.connection with
    timeout := setting data ["storage", "connection", "timeout"] c.storage.connection.timeout
    maxRetries := setting data ["storage", "connection", "max_retries"]
      c.storage.connection.maxRetries } }

/-- The fields written from `cluster`. -/
def clusterWrite (data : Value) (c : SharedConfig) : SharedConfig :=
  { c with cluster := { c.cluster with
    name := setting data ["cluster", "name"] c.cluster.name
    domain := setting data ["cluster", "domain"] c.cluster.domain
    type := setting data ["cluster", "type"] c.cluster.type } }

/-- The fields written from `gitops.repository`. -/
def repositoryWrite (data : Value) (c : SharedConfig) : SharedConfig :=
  { c with gitops.repository := { c.gitops.repository with
    url := setting data ["gitops", "repository", "url"] c.gitops.repository.url
    branch := setting data ["gitops", "repository", "branch"] c.gitops.repository.branch } }

/-- The field written from `gitops.repository.auth`. -/
def authWrite (data : Value) (c : SharedConfig) : SharedConfig :=
  { c with gitops.repository.auth.method :=
    setting data ["gitops", "repository", "auth", "method"] c.gitops.repository.auth.method }

/-- The fields written from `backup.behavior`. -/
def behaviorWrite (data : Value) (c : SharedConfig) : SharedConfig :=
  { c with backup.behavior := { c.backup.behavior with
    batchSize := setting data ["backup", "behavior", "batch_size"] c.backup.behavior.batchSize
    validateYaml := setting data ["backup", "behavior", "validate_yaml"]
      c.backup.behavior.validateYaml } }

/-- The fields written from `backup.cleanup`. -/
def cleanupWrite (data : Value) (c : SharedConfig) : SharedConfig :=
  { c with backup.cleanup := { c.backup.cleanup with
    enabled := setting data ["backup", "cleanup", "enabled"] c.backup.cleanup.enabled
    retentionDays := setting data ["backup", "cleanup", "retention_days"]
      c.backup.cleanup.retentionDays } }

/-- The fields written from `observability.logging`. -/
def loggingWrite (data : Value) (c : SharedConfig) : SharedConfig :=
  { c with observability.logging := { c.observability.logging with
    level := setting data ["observability", "logging", "level"] c.observability.logging.level
    format := setting data ["observability", "logging", "format"] c.observability.logging.format } }

/-- The writes of `_merge_configs`, in its order. -/
def fieldWrites (data : Value) : List (SharedConfig → SharedConfig) :=
  [storageWrite data, connectionWrite data, clusterWrite data, repositoryWrite data, authWrite data,
    behaviorWrite data, cleanupWrite data, loggingWrite data]

/-- Make writes in order. -/
def applyWrites (ws : List (SharedConfig → SharedConfig)) (c : SharedConfig) : SharedConfig :=
  ws.foldl (fun c w => w c) c

/-- What `_merge_configs` is for: every field it maps takes the document's value when the document
sets one and keeps its value otherwise; no other field changes. -/
def mergeSpec (data : Value) (c : SharedConfig) : SharedConfig :=
  applyWrites (fieldWrites data) c

theorem applyWrites_append (ws vs : List (SharedConfig → SharedConfig)) (c : SharedConfig) :
    applyWrites (ws ++ vs) c = applyWrites vs (applyWrites ws c) :=
  List.foldl_append _ _ _ _

/-- The merge changes no field it does not map. -/
theorem withMergedFields_mergeSpec (data : Value) (c : SharedConfig) :
    withMergedFields c (mergeSpec data c) = mergeSpec data c := by
  simp only [mergeSpec, fieldWrites, applyWrites, List.foldl, storageWrite, connectionWrite,
    clusterWrite, repositoryWrite, authWrite, behaviorWrite, cleanupWrite, loggingWrite,
    withMergedFields]

/-! ## Reading the document -/

theorem valueAt_of_getItem {data v : Value} {key : String} (h : pyGetItem data key = .ok v)
    (path : List String) : valueAt data (key :: path) = valueAt v path := by
  cases data <;> simp only [pyGetItem] at h <;> try cases h
  rename_i entries
  split at h
  · rename_i item hl
    cases h
    simp [valueAt, hl]
  · cases h

theorem valueAt_of_not_contains {data : Value} {key : String} (h : pyContains data key = .ok false)
    (path : List String) : valueAt data (key :: path) = none := by
  cases data with
  | dict entries =>
      cases hl : entries.lookup key with
      | none => simp [valueAt, hl]
      | some v =>
          have hc := Dict.contains_iff_lookup.mpr (by rw [hl]; rfl)
          simp [pyContains, hc] at h
  | list _ | str _ => rfl
  | _ => cases h

theorem setting_of_getItem {α : Type} [FieldValue α] {data v : Value} {key : String}
    (h : pyGetItem data key = .ok v) (path : List String) (current : α) :
    setting data (key :: path) current = setting v path current := by
  rw [setting, valueAt_of_getItem h, setting]

theorem setting_of_not_contains {α : Type} [FieldValue α] {data : Value} {key : String}
    (h : pyContains data key = .ok false) (path : List String) (current : α) :
    setting data (key :: path) current = current := by
  rw [setting, valueAt_of_not_contains h]
  rfl

@[simp] theorem setting_dict {α : Type} [FieldValue α] (entries : List (String × Value))
    (key : String) (current : α) : setting (.dict entries) [key] current = getOr entries key current := by
  simp only [setting, valueAt, getOr]
  cases entries.lookup key <;> rfl

/-! ## Writes of a run -/

/-- `x` makes the writes `ws` in order: all of them when it returns, those of a prefix of `ws` when
it raises. -/
def Writes (x : MergeM Unit) (ws : List (SharedConfig → SharedConfig)) : Prop :=
  ∀ c, x.run c = .ok () (applyWrites ws c) ∨
    ∃ e pre, pre <+: ws ∧ x.run c = .error e (applyWrites pre c)

theorem eStateM_run_apply {ε σ α : Type} (x : EStateM ε σ α) (s : σ) : x.run s = x s :=
  rfl

theorem run_bind_ok {ε σ α β : Type} {x : EStateM ε σ α} {f : α → EStateM ε σ β} {s s' : σ} {a : α}
    (h : x.run s = .ok a s') : (x >>= f).run s = (f a).run s' := by
  simp only [eStateM_run_apply, bind, EStateM.bind] at h ⊢
  rw [h]

theorem run_bind_error {ε σ α β : Type} {x : EStateM ε σ α} {f : α → EStateM ε σ β} {s s' : σ}
    {e : ε} (h : x.run s = .error e s') : (x >>= f).run s = .error e s' := by
  simp only [eStateM_run_apply, bind, EStateM.bind] at h ⊢
  rw [h]

theorem Writes.seq {x y : MergeM Unit} {ws vs : List (SharedConfig → SharedConfig)}
    (hx : Writes x ws) (hy : Writes y vs) : Writes (do x; y) (ws ++ vs) := by
  intro c
  rcases hx c with h | ⟨e, pre, hpre, h⟩
  · rcases hy (applyWrites ws c) with h' | ⟨e', pre', hpre', h'⟩
    · exact .inl (by rw [run_bind_ok h, h', applyWrites_append])
    · exact .inr ⟨e', ws ++ pre', (List.prefix_append_right_inj ws).mpr hpre',
        by rw [run_bind_ok h, h', applyWrites_append]⟩
  · exact .inr ⟨e, pre, hpre.trans (List.prefix_append _ _), run_bind_error h⟩

theorem Writes.ofModify {f w : SharedConfig → SharedConfig} (h : ∀ c, f c = w c) :
    Writes (modify f) [w] :=
  fun c => .inl (congrArg (EStateM.Result.ok ()) (h c))

/-- Reading a mapping with `.get` raises, before any write, on a value that is not one. -/
theorem Writes.ofEntries {v : Value} {k : List (String × Value) → MergeM Unit}
    {ws : List (SharedConfig → SharedConfig)}
    (h : ∀ entries, v = .dict entries → Writes (k entries) ws) :
    Writes (do let entries ← raising (getEntries v); k entries) ws := by
  intro c
  cases v
  case dict entries => exact h entries rfl c
  all_goals exact .inr ⟨_, [], List.nil_prefix, rfl⟩

/-- `mergeSection` raises on a failed `in` or `[]`, and otherwise runs the merge when the key is
present. -/
theorem mergeSection_run (data : Value) (key : String) (merge : Value → MergeM Unit)
    (c : SharedConfig) :
    (mergeSection data key merge).run c =
      match pyContains data key, pyGetItem data key with
      | .error e, _ => .error e c
      | .ok false, _ => .ok () c
      | .ok true, .error e => .error e c
      | .ok true, .ok v => (merge v).run c := by
  unfold mergeSection
  rcases pyContains data key with e | _ | _ <;> rcases pyGetItem data key with e' | v <;> rfl

/-- A section writes nothing when its key is absent, and what its merge writes otherwise. -/
theorem Writes.ofSection {data : Value} {key : String} {merge : Value → MergeM Unit}
    {ws : List (SharedConfig → SharedConfig)}
    (habsent : pyContains data key = .ok false → ∀ c, applyWrites ws c = c)
    (hpresent : ∀ v, pyGetItem data key = .ok v → Writes (merge v) ws) :
    Writes (mergeSection data key merge) ws := by
  intro c
  rw [mergeSection_run]
  rcases hc : pyContains data key with e | _ | _
  · exact .inr ⟨e, [], List.nil_prefix, rfl⟩
  · exact .inl (by rw [habsent hc])
  · rcases hi : pyGetItem data key with e | v
    · exact .inr ⟨e, [], List.nil_prefix, rfl⟩
    · exact hpresent v hi c

/-! ## The sections of `_merge_configs` -/

theorem writes_storage (data : Value) :
    Writes (mergeSection data "storage" mergeStorage) [storageWrite data, connectionWrite data] := by
  refine Writes.ofSection (fun h c => ?_) fun v hv => ?_
  · simp [applyWrites, storageWrite, connectionWrite, setting_of_not_contains h]
  · refine Writes.ofEntries fun entries hd => ?_
    subst hd
    show Writes _ ([storageWrite data] ++ [connectionWrite data])
    refine (Writes.ofModify fun c => ?_).seq (Writes.ofSection (fun h c => ?_) fun w hw => ?_)
    · simp [storageWrite, setting_of_getItem hv]
    · simp [applyWrites, connectionWrite, setting_of_getItem hv, setting_of_not_contains h]
    · refine Writes.ofEntries fun conn hd => ?_
      subst hd
      exact Writes.ofModify fun c => by
        simp [connectionWrite, setting_of_getItem hv, setting_of_getItem hw]

theorem writes_cluster (data : Value) :
    Writes (mergeSection data "cluster" mergeCluster) [clusterWrite data] := by
  refine Writes.ofSection (fun h c => ?_) fun v hv => Writes.ofEntries fun entries hd => ?_
  · simp [applyWrites, clusterWrite, setting_of_not_contains h]
  · subst hd
    exact Writes.ofModify fun c => by simp [clusterWrite, setting_of_getItem hv]

theorem writes_gitops (data : Value) :
    Writes (mergeSection data "gitops" mergeGitops) [repositoryWrite data, authWrite data] := by
  refine Writes.ofSection (fun h c => ?_) fun v hv =>
    Writes.ofSection (fun h c => ?_) fun repo hrepo => ?_
  · simp [applyWrites, repositoryWrite, authWrite, setting_of_not_contains h]
  · simp [applyWrites, repositoryWrite, authWrite, setting_of_getItem hv, setting_of_not_contains h]
  · refine Writes.ofEntries fun entries hd => ?_
    subst hd
    show Writes _ ([repositoryWrite data] ++ [authWrite data])
    refine (Writes.ofModify fun c => ?_).seq (Writes.ofSection (fun h c => ?_) fun auth hauth => ?_)
    · simp [repositoryWrite, setting_of_getItem hv, setting_of_getItem hrepo]
    · simp [applyWrites, authWrite, setting_of_getItem hv, setting_of_getItem hrepo,
        setting_of_not_contains h]
    · refine Writes.ofEntries fun entries hd => ?_
      subst hd
      exact Writes.ofModify fun c => by
        simp [authWrite, setting_of_getItem hv, setting_of_getItem hrepo, setting_of_getItem hauth]

theorem writes_backup (data : Value) :
    Writes (mergeSection data "backup" mergeBackup) [behaviorWrite data, cleanupWrite data] := by
  refine Writes.ofSection (fun h c => ?_) fun v hv => ?_
  · simp [applyWrites, behaviorWrite, cleanupWrite, setting_of_not_contains h]
  · show Writes _ ([behaviorWrite data] ++ [cleanupWrite data])
    refine (Writes.ofSection (fun h c => ?_) fun b hb => ?_).seq
      (Writes.ofSection (fun h c => ?_) fun b hb => ?_)
    · simp [applyWrites, behaviorWrite, setting_of_getItem hv, setting_of_not_contains h]
    · refine Writes.ofEntries fun entries hd => ?_
      subst hd
      exact Writes.ofModify fun c => by
        simp [behaviorWrite, setting_of_getItem hv, setting_of_getItem hb]
    · simp [applyWrites, cleanupWrite, setting_of_getItem hv, setting_of_not_contains h]
    · refine Writes.ofEntries fun entries hd => ?_
      subst hd
      exact Writes.ofModify fun c => by
        simp [cleanupWrite, setting_of_getItem hv, setting_of_getItem hb]

theorem writes_observability (data : Value) :
    Writes (mergeSection data "observability" mergeObservability) [loggingWrite data] := by
  refine Writes.ofSection (fun h c => ?_) fun v hv =>
    Writes.ofSection (fun h c => ?_) fun l hl => ?_
  · simp [applyWrites, loggingWrite, setting_of_not_contains h]
  · simp [applyWrites, loggingWrite, setting_of_getItem hv, setting_of_not_contains h]
  · refine Writes.ofEntries fun entries hd => ?_
    subst hd
    exact Writes.ofModify fun c => by
      simp [loggingWrite, setting_of_getItem hv, setting_of_getItem hl]

/-- **Every run of `_merge_configs` makes a prefix of its writes, all of them when it returns.** -/
theorem mergeConfigs_writes (data : Value) : Writes (mergeConfigs data) (fieldWrites data) :=
  (writes_storage data).seq <| (writes_cluster data).seq <| (writes_gitops data).seq <|
    (writes_backup data).seq (writes_observability data)

/-- A merge that returns makes every write. -/
theorem mergeConfigs_ok {data : Value} {c c' : SharedConfig}
    (h : (mergeConfigs data).run c = .ok () c') : c' = mergeSpec data c := by
  rcases mergeConfigs_writes data c with h' | ⟨e, pre, -, h'⟩ <;> rw [h'] at h <;> cases h
  rfl

/-- A merge that raises leaves the writes of a prefix made. -/
theorem mergeConfigs_error {data : Value} {c c' : SharedConfig} {e : String}
    (h : (mergeConfigs data).run c = .error e c') :
    ∃ pre, pre <+: fieldWrites data ∧ c' = applyWrites pre c := by
  rcases mergeConfigs_writes data c with h' | ⟨e', pre, hpre, h'⟩ <;> rw [h'] at h <;> cases h
  exact ⟨pre, hpre, rfl⟩

/-- `_load_file` of a document on which the merge raises returns what the merge left. -/
theorem loadFile_of_error {data : Value} (ht : data.truthy = true) {c c' : SharedConfig} {e : String}
    (h : (mergeConfigs data).run c = .error e c') : loadFile (some (.ok data)) c = c' := by
  simp [loadFile, ht, h, finalState]

/-- A `storage` section that sets the storage type, followed by `cluster: null`. -/
def storageThenNull (type : String) : Value :=
  .dict [("storage", .dict [("type", .str type)]), ("cluster", .none)]

theorem mergeConfigs_storageThenNull (type : String) (c : SharedConfig) :
    (mergeConfigs (storageThenNull type)).run c =
      .error "'NoneType' object has no attribute 'get'" { c with storage.type := type } :=
  rfl

/-- **A file that fails to load is not ignored.**  A merge that returns gives `mergeSpec`: every
field `_merge_configs` maps takes the document's value when the document sets one and keeps its
value otherwise, and no other field changes.  A merge that raises on a document `_load_file` merges
leaves the writes made before the raise, and `_load_file` returns that configuration.  For every
configuration and every storage type other than its own, the document setting that type and then
`cluster: null` makes `_load_file` return the configuration with the new type. -/
theorem load_file_keeps_partial_merge :
    (∀ data c c', (mergeConfigs data).run c = .ok () c' → c' = mergeSpec data c) ∧
      (∀ data c, withMergedFields c (mergeSpec data c) = mergeSpec data c) ∧
      (∀ (data : Value) c e c', data.truthy = true → (mergeConfigs data).run c = .error e c' →
        loadFile (some (.ok data)) c = c' ∧ ∃ pre, pre <+: fieldWrites data ∧ c' = applyWrites pre c) ∧
      ∀ type (c : SharedConfig), type ≠ c.storage.type →
        (mergeConfigs (storageThenNull type)).run c =
          .error "'NoneType' object has no attribute 'get'" { c with storage.type := type } ∧
        loadFile (some (.ok (storageThenNull type))) c ≠ c := by
  refine ⟨fun _ _ _ => mergeConfigs_ok, withMergedFields_mergeSpec,
    fun _ _ _ _ ht h => ⟨loadFile_of_error ht h, mergeConfigs_error h⟩,
    fun type c hne => ⟨mergeConfigs_storageThenNull type c, fun h => hne ?_⟩⟩
  rw [loadFile_of_error (show (storageThenNull type).truthy = true from rfl)
    (mergeConfigs_storageThenNull type c)] at h
  exact congrArg (·.storage.type) h


end Config
end Tkkube
