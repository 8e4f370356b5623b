import Tkkube.Restore.Manifests

/-!
# Where a restore commits

`_commit_gitops_manifests` writes into `restorePath`, that is `work_dir / 'gitops_repo' /
gitops_path / target_cluster / f"restore-{restore_id}"`, and `_generate_cluster_config` points the
Application at the text `f"{gitops_path}/{target_cluster}/restore-{restore_id}"` of the repository.
The two agree, and the directory lies inside the clone, when the texts are relative paths without
`..`; distinct restore ids of one target cluster get disjoint directories when the ids hold no
slash.  Neither `pathlib`'s `/` nor the f-string looks inside the request's strings, so an absolute
target cluster leaves the clone and an id with a slash lands inside another restore's directory.
-/

namespace Tkkube
namespace Restore

open Path

/-- `spec.source.path` of an Application. -/
def sourcePath (config : List (String × Value)) : Option Value :=
  (entriesAt (entriesAt config "spec") "source").lookup "path"

/-- The text of the restore directory in the repository, as the Application names it. -/
theorem sourcePath_generateClusterConfig (settings : GitopsSettings) (request : RestoreRequest) :
    sourcePath (generateClusterConfig settings request) = some (.str
      (settings.path ++ "/" ++ request.targetCluster ++ "/" ++ ("restore-" ++ request.restoreId))) := by
  simp [sourcePath, generateClusterConfig, entriesAt, List.lookup_cons, String.ext_iff,
    String.data_append, toString]

theorem parse_restore_absolute (id : String) : (parse ("restore-" ++ id)).absolute = false := by
  simp [parse, String.data_append]

theorem parse_restore_parts {id : String} (h : '/' ∉ id.data) :
    (parse ("restore-" ++ id)).parts = ["restore-" ++ id] := by
  refine parse_parts_of_not_mem ?_ ?_ ?_ <;> simp [String.ext_iff, String.data_append, h]

/-- The directory of a restore, with the clone's parts, then those of the gitops path, of the target
cluster and of `restore-<id>`, when the gitops path and the target cluster are relative. -/
theorem restorePath_eq (ctx : Ctx) (hgp : (parse ctx.settings.path).absolute = false)
    (htc : (parse ctx.request.targetCluster).absolute = false) :
    restorePath ctx = ⟨(repoPath ctx).absolute, (repoPath ctx).parts ++
      ((parse ctx.settings.path).parts ++ (parse ctx.request.targetCluster).parts ++
        (parse ("restore-" ++ ctx.request.restoreId)).parts)⟩ := by
  rw [restorePath, div_of_relative _ hgp, div_of_relative _ htc,
    div_of_relative _ (parse_restore_absolute _)]
  simp only [List.append_assoc]

theorem repoPath_parts (ctx : Ctx) :
    (repoPath ctx).parts = (parse ctx.workDir).parts ++ ["gitops_repo"] := by
  rw [repoPath, div_of_relative _ (show (parse "gitops_repo").absolute = false by decide)]
  rfl

/-- An absolute target cluster replaces everything before it. -/
theorem restorePath_of_absolute (ctx : Ctx) (h : (parse ctx.request.targetCluster).absolute = true) :
    restorePath ctx = (parse ctx.request.targetCluster).div ("restore-" ++ ctx.request.restoreId) := by
  rw [restorePath, div_of_absolute _ h]

/-- The restore directory is the clone joined with the Application's path, which is relative. -/
theorem restorePath_eq_div_sourcePath (ctx : Ctx) (hne : ctx.settings.path ≠ "")
    (hgp : (parse ctx.settings.path).absolute = false)
    (htc : (parse ctx.request.targetCluster).absolute = false) :
    ∃ text, sourcePath (generateClusterConfig ctx.settings ctx.request) = some (.str text) ∧
      (parse text).absolute = false ∧ restorePath ctx = (repoPath ctx).div text := by
  have habs : (parse (ctx.settings.path ++ "/" ++ ctx.request.targetCluster ++ "/" ++
      ("restore-" ++ ctx.request.restoreId))).absolute = false := by
    simp only [String.append_assoc]
    rw [parse_absolute_append _ hne, hgp]
  refine ⟨_, sourcePath_generateClusterConfig ctx.settings ctx.request, habs, ?_⟩
  rw [restorePath_eq ctx hgp htc, div_of_relative _ habs, parse_parts_append_slash,
    parse_parts_append_slash]

/-- With relative texts free of `..` and an id without a slash, the restore directory lies inside the
clone. -/
theorem restorePath_within (ctx : Ctx) (hgp : (parse ctx.settings.path).absolute = false)
    (hgpd : ".." ∉ (parse ctx.settings.path).parts)
    (htc : (parse ctx.request.targetCluster).absolute = false)
    (htcd : ".." ∉ (parse ctx.request.targetCluster).parts) (hid : '/' ∉ ctx.request.restoreId.data) :
    Within (repoPath ctx) (restorePath ctx) := by
  have hr : ".." ∉ (parse ("restore-" ++ ctx.request.restoreId)).parts := by
    simp [parse_restore_parts hid, String.ext_iff, String.data_append]
  exact ((within_div _ hgp hgpd).trans (within_div _ htc htcd)).trans
    (within_div _ (parse_restore_absolute _) hr)

/-- Two requests of one orchestrator for the same target cluster, with distinct ids without a
slash, get disjoint directories. -/
theorem restorePath_disjoint (ctx : Ctx) {q q' : RestoreRequest}
    (hc : q'.targetCluster = q.targetCluster) (hne : q.restoreId ≠ q'.restoreId)
    (hid : '/' ∉ q.restoreId.data) (hid' : '/' ∉ q'.restoreId.data) (p : Path)
    (hp : Within (restorePath { ctx with request := q }) p) :
    ¬ Within (restorePath { ctx with request := q' }) p := by
  simp only [restorePath] at hp ⊢
  rw [div_of_relative _ (parse_restore_absolute _), parse_restore_parts hid] at hp
  rw [div_of_relative _ (parse_restore_absolute _), parse_restore_parts hid', hc]
  exact not_within_of_parts (by simpa [String.ext_iff, String.data_append] using hne) hp

/-- **The restore directory, amended.**  For a gitops path that is a non-empty relative path without
`..`, a target cluster that is a relative path without `..` and a restore id without a slash, the
directory `_commit_gitops_manifests` writes into lies inside the clone and is the clone joined with
the relative path `_generate_cluster_config` names; another request for the same target cluster with
a distinct id without a slash gets a directory disjoint from it. -/
theorem restore_directory_scoped (ctx : Ctx) (hne : ctx.settings.path ≠ "")
    (hgp : (parse ctx.settings.path).absolute = false) (hgpd : ".." ∉ (parse ctx.settings.path).parts)
    (htc : (parse ctx.request.targetCluster).absolute = false)
    (htcd : ".." ∉ (parse ctx.request.targetCluster).parts) (hid : '/' ∉ ctx.request.restoreId.data) :
    Within (repoPath ctx) (restorePath ctx) ∧
      (∃ text, sourcePath (generateClusterConfig ctx.settings ctx.request) = some (.str text) ∧
        (parse text).absolute = false ∧ restorePath ctx = (repoPath ctx).div text) ∧
      ∀ q', q'.targetCluster = ctx.request.targetCluster → q'.restoreId ≠ ctx.request.restoreId →
        '/' ∉ q'.restoreId.data → ∀ p, Within (restorePath ctx) p →
          ¬ Within (restorePath { ctx with request := q' }) p :=
  ⟨restorePath_within ctx hgp hgpd htc htcd hid, restorePath_eq_div_sourcePath ctx hne hgp htc,
    fun _ hc hne' hid' p hp => restorePath_disjoint ctx (q := ctx.request) hc (Ne.symm hne') hid hid' p hp⟩

/-- The request `"r"` of a backup `"b"` to the cluster `"dst"`. -/
def requestDst : RestoreRequest :=
  ⟨"r", "b", "src", "dst", .fullCluster, .namespaceRecovery, none, none, false⟩

/-- The orchestrator's defaults and the scratch directory `/tmp/gitops_restore_w`. -/
def ctxDst : Ctx := ⟨{}, "/tmp/gitops_restore_w", 0, requestDst⟩

theorem restore_directory_scoped_ctxDst :
    ctxDst.settings.path ≠ "" ∧ (parse ctxDst.settings.path).absolute = false ∧
      ".." ∉ (parse ctxDst.settings.path).parts ∧
      (parse ctxDst.request.targetCluster).absolute = false ∧
      ".." ∉ (parse ctxDst.request.targetCluster).parts ∧ '/' ∉ ctxDst.request.restoreId.data ∧
      (Within (repoPath ctxDst) (restorePath ctxDst) ∧
        (∃ text, sourcePath (generateClusterConfig ctxDst.settings ctxDst.request) = some (.str text) ∧
          (parse text).absolute = false ∧ restorePath ctxDst = (repoPath ctxDst).div text) ∧
        ∀ q', q'.targetCluster = ctxDst.request.targetCluster → q'.restoreId ≠ ctxDst.request.restoreId →
          '/' ∉ q'.restoreId.data → ∀ p, Within (restorePath ctxDst) p →
            ¬ Within (restorePath { ctxDst with request := q' }) p) :=
  have hne : ctxDst.settings.path ≠ "" := by decide
  have hgp : (parse ctxDst.settings.path).absolute = false := by decide
  have hgpd : ".." ∉ (parse ctxDst.settings.path).parts := by decide
  have htc : (parse ctxDst.request.targetCluster).absolute = false := by decide
  have htcd : ".." ∉ (parse ctxDst.request.targetCluster).parts := by decide
  have hid : '/' ∉ ctxDst.request.restoreId.data := by decide
  ⟨hne, hgp, hgpd, htc, htcd, hid, restore_directory_scoped ctxDst hne hgp hgpd htc htcd hid⟩

/-- In every orchestrator, the request for the target cluster `/tmp/x` commits outside the clone,
and the directory of restore `a/b` lies inside that of restore `a`. -/
theorem absoluteCluster_escapes_slashId_nests (ctx : Ctx) :
    ¬ Within (repoPath ctx)
        (restorePath { ctx with request := { requestDst with targetCluster := "/tmp/x" } }) ∧
      Within (restorePath { ctx with request := { requestDst with restoreId := "a" } })
        (restorePath { ctx with request := { requestDst with restoreId := "a/b" } }) := by
  constructor
  · rw [restorePath_of_absolute _ (show (parse "/tmp/x").absolute = true by decide)]
    dsimp only [requestDst]
    rw [show (parse "/tmp/x").div ("restore-" ++ "r") = ⟨true, ["tmp", "x", "restore-r"]⟩ by decide]
    rintro ⟨-, rest, hr, -⟩
    have h := congrArg (fun l => "gitops_repo" ∈ l) hr
    simp [repoPath_parts] at h
  · simp only [restorePath]
    rw [div_of_relative _ (parse_restore_absolute _), div_of_relative _ (parse_restore_absolute _)]
    dsimp only [requestDst, repoPath]
    rw [show (parse ("restore-" ++ "a")).parts = ["restore-a"] by decide,
      show (parse ("restore-" ++ "a/b")).parts = ["restore-a", "b"] by decide]
    exact ⟨rfl, ["b"], by simp, by decide⟩

/-- **An absolute target cluster leaves the clone, and an id with a slash nests.**  With the
orchestrator's defaults, the request for the target cluster `/tmp/x` commits to `/tmp/x/restore-r`,
outside the clone, and the directory of restore `a/b` lies inside that of restore `a`. -/
theorem restorePath_escapes_or_nests :
    ¬ Within (repoPath ctxDst)
        (restorePath { ctxDst with request := { requestDst with targetCluster := "/tmp/x" } }) ∧
      Within (restorePath { ctxDst with request := { requestDst with restoreId := "a" } })
        (restorePath { ctxDst with request := { requestDst with restoreId := "a/b" } }) :=
  absoluteCluster_escapes_slashId_nests ctxDst

end Restore
end Tkkube
