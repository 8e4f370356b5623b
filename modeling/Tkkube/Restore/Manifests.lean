import Tkkube.Restore.Phases

/-!
# The manifests of Preparation

`_apply_gitops_transformations` on the resources it accepts, and what `_validate_gitops_manifests`
checks of the result.

* `applyGitopsTransformations_eq`: on a dictionary whose `metadata`, `labels` and `annotations` are
  dictionaries where present, the transformation returns `transformedEntries`, a composition of
  dictionary writes; on any other resource it raises (`transformable_of_apply_ok`);
* `apply_gitops_transformations_law`: the manifest keeps every other key of the resource and of
  its metadata, overrides the labels and annotations with the provenance entries, maps the
  namespace, and a second transformation gives the manifest one transformation at the second clock
  reading gives;
* `preparation_skips_metadata_name`: Preparation passes exactly the resources that transform and
  carry `apiVersion` and `kind`; `metadata` is always there by then, and `metadata.name` is never
  looked at.
-/

namespace Tkkube
namespace Restore

/-! ## Reading a resource -/

/-- The entries of the dictionary stored under `key`, or none. -/
def entriesAt (d : List (String × Value)) (key : String) : List (String × Value) :=
  match d.lookup key with
  | some (.dict entries) => entries
  | _ => []

/-- `metadata` of a resource, as a dictionary. -/
def metadataOf (d : List (String × Value)) : List (String × Value) := entriesAt d "metadata"

/-- `metadata.labels` of a resource. -/
def labelsOf (d : List (String × Value)) : List (String × Value) := entriesAt (metadataOf d) "labels"

/-- `metadata.annotations` of a resource. -/
def annotationsOf (d : List (String × Value)) : List (String × Value) :=
  entriesAt (metadataOf d) "annotations"

/-- `metadata.get('namespace')` of a resource. -/
def namespaceOf (d : List (String × Value)) : Value :=
  ((metadataOf d).lookup "namespace").getD .none

/-- Nothing under `key`, or a dictionary. -/
def dictOrAbsent (d : List (String × Value)) (key : String) : Bool :=
  match d.lookup key with
  | none | some (.dict _) => true
  | some _ => false

/-- The resources the transformation accepts: `metadata`, and its `labels` and `annotations`, are
dictionaries where present. -/
def transformable (d : List (String × Value)) : Bool :=
  dictOrAbsent d "metadata" && dictOrAbsent (metadataOf d) "labels" &&
    dictOrAbsent (metadataOf d) "annotations"

theorem lookup_of_dictOrAbsent {d : List (String × Value)} {key : String}
    (h : dictOrAbsent d key = true) : d.lookup key = none ∨ d.lookup key = some (.dict (entriesAt d key)) := by
  unfold dictOrAbsent at h; unfold entriesAt
  rcases hl : d.lookup key with _ | v
  · exact .inl rfl
  · rw [hl] at h; cases v <;> simp_all

/-! ## The transformation as dictionary writes -/

/-- `if key not in m: m[key] = {}` on a dictionary. -/
def ensureEntries (m : List (String × Value)) (key : String) : List (String × Value) :=
  if Dict.contains m key then m else Dict.setKey key (.dict []) m

/-- The metadata the transformation writes at clock reading `now`: both dictionaries made present,
the resource's labels and annotations (or none) updated with the provenance entries, and the
namespace mapped. -/
def transformedMetadata (request : RestoreRequest) (now : Nat) (md : List (String × Value)) :
    List (String × Value) :=
  mapNamespace request
    (Dict.setKey "annotations"
      (.dict (Dict.update (entriesAt md "annotations") (provenanceAnnotations request now)))
      (Dict.setKey "labels" (.dict (Dict.update (entriesAt md "labels") (provenanceLabels request)))
        (ensureEntries (ensureEntries md "labels") "annotations")))

/-- The manifest the transformation returns at clock reading `now`. -/
def transformedEntries (request : RestoreRequest) (now : Nat) (d : List (String × Value)) :
    List (String × Value) :=
  Dict.setKey "metadata" (.dict (transformedMetadata request now (metadataOf d))) d

theorem ensureKey_dict (m : List (String × Value)) (key : String) :
    ensureKey (.dict m) key = .ok (.dict (ensureEntries m key)) := by
  unfold ensureEntries; simp only [ensureKey]; split <;> rfl

theorem updateItem_of_lookup {m inner : List (String × Value)} {key : String}
    (h : m.lookup key = some (.dict inner)) (e : List (String × Value)) :
    updateItem (.dict m) key e = .ok (Dict.setKey key (.dict (Dict.update inner e)) m) := by
  simp [updateItem, h]

theorem lookup_ensureEntries (m : List (String × Value)) (key j : String) :
    (ensureEntries m key).lookup j =
      if j = key then ((m.lookup key).or (some (.dict []))) else m.lookup j := by
  unfold ensureEntries
  split <;> rename_i h
  · have := Dict.contains_iff_lookup.mp h
    split
    · subst_vars; cases hl : m.lookup j <;> simp_all
    · rfl
  · rw [Dict.lookup_setKey]
    split
    · subst_vars
      have : m.lookup j = none := by
        cases hl : m.lookup j <;> simp_all [Dict.contains_iff_lookup]
      simp [this]
    · rfl

theorem entriesAt_ensureEntries {m : List (String × Value)} {key : String}
    (h : dictOrAbsent m key = true) :
    (ensureEntries m key).lookup key = some (.dict (entriesAt m key)) := by
  rw [lookup_ensureEntries, if_pos rfl]
  rcases lookup_of_dictOrAbsent h with h' | h'
  · simp [h', entriesAt]
  · rw [h']; rfl

theorem dictOrAbsent_ensureEntries {m : List (String × Value)} {key j : String} (hj : j ≠ key)
    (h : dictOrAbsent m j = true) : dictOrAbsent (ensureEntries m key) j = true := by
  simpa [dictOrAbsent, lookup_ensureEntries, hj] using h

theorem entriesAt_ensureEntries_of_ne (m : List (String × Value)) {key j : String} (hj : j ≠ key) :
    entriesAt (ensureEntries m key) j = entriesAt m j := by
  simp [entriesAt, lookup_ensureEntries, hj]

/-- On a resource it accepts, the transformation is `transformedEntries`. -/
theorem applyGitopsTransformations_eq (request : RestoreRequest) (now : Nat)
    {d : List (String × Value)} (h : transformable d = true) :
    applyGitopsTransformations request now (.dict d) = .ok (transformedEntries request now d) := by
  simp only [transformable, Bool.and_eq_true] at h
  obtain ⟨⟨hmeta, hlab⟩, hann⟩ := h
  have hmd : (d.lookup "metadata").getD (.dict []) = .dict (metadataOf d) := by
    rcases lookup_of_dictOrAbsent hmeta with h' | h' <;> rw [h']
    · simp [metadataOf, entriesAt, h']
    · rfl
  have hlab₂ : (ensureEntries (ensureEntries (metadataOf d) "labels") "annotations").lookup "labels" =
      some (.dict (entriesAt (metadataOf d) "labels")) := by
    rw [lookup_ensureEntries, if_neg (by decide), entriesAt_ensureEntries hlab]
  have hann₃ : (Dict.setKey "labels" (.dict (Dict.update (entriesAt (metadataOf d) "labels")
      (provenanceLabels request))) (ensureEntries (ensureEntries (metadataOf d) "labels")
      "annotations")).lookup "annotations" = some (.dict (entriesAt (metadataOf d) "annotations")) := by
    rw [Dict.lookup_setKey_ne _ _ (by decide), entriesAt_ensureEntries
      (dictOrAbsent_ensureEntries (by decide) hann), entriesAt_ensureEntries_of_ne _ (by decide)]
  simp only [applyGitopsTransformations, hmd, ensureKey_dict, bind, Except.bind,
    updateItem_of_lookup hlab₂, updateItem_of_lookup hann₃, pure, Except.pure]
  rfl

theorem ensureKey_ok {v w : Value} {key : String} (h : ensureKey v key = .ok w) :
    (∃ es, v = .dict es ∧ w = .dict (ensureEntries es key)) ∨ (∃ text, v = .str text ∧ w = .str text) := by
  cases v with
  | dict es =>
      rw [ensureKey_dict] at h
      exact .inl ⟨es, rfl, (Except.ok.inj h).symm⟩
  | str text =>
      refine .inr ⟨text, rfl, ?_⟩
      simp only [ensureKey] at h
      split at h <;> cases h
  | _ => cases h

theorem updateItem_ok {v : Value} {key : String} {e r : List (String × Value)}
    (h : updateItem v key e = .ok r) :
    ∃ es inner, v = .dict es ∧ es.lookup key = some (.dict inner) ∧
      r = Dict.setKey key (.dict (Dict.update inner e)) es := by
  cases v with
  | dict es =>
      simp only [updateItem] at h
      split at h
      · exact ⟨es, _, rfl, ‹_›, (Except.ok.inj h).symm⟩
      all_goals cases h
  | _ => cases h

theorem dictOrAbsent_of_or {m inner : List (String × Value)} {key : String}
    (h : (m.lookup key).or (some (.dict [])) = some (.dict inner)) : dictOrAbsent m key = true := by
  unfold dictOrAbsent
  cases hl : m.lookup key with
  | none => rfl
  | some v => rw [hl] at h; cases h; rfl

/-- The transformation raises on every resource it does not accept. -/
theorem transformable_of_apply_ok {request : RestoreRequest} {now : Nat} {d m : List (String × Value)}
    (h : applyGitopsTransformations request now (.dict d) = .ok m) : transformable d = true := by
  simp only [applyGitopsTransformations, bind, Except.bind] at h
  split at h; · cases h
  rename_i m₁ h₁
  split at h; · cases h
  rename_i m₂ h₂
  split at h; · cases h
  rename_i m₃ h₃
  split at h; · cases h
  rename_i m₄ h₄
  obtain ⟨items, L, rfl, hL, rfl⟩ := updateItem_ok h₃
  obtain ⟨_, A, hA₀, hA, -⟩ := updateItem_ok h₄
  cases hA₀
  rcases ensureKey_ok h₂ with ⟨es₁, rfl, hitems⟩ | ⟨_, -, h'⟩
  swap; · cases h'
  cases hitems
  rcases ensureKey_ok h₁ with ⟨md, hmd, hes⟩ | ⟨_, hmd, h'⟩
  swap; · cases h'
  cases hes
  have hmeta : dictOrAbsent d "metadata" = true ∧ metadataOf d = md := by
    unfold dictOrAbsent metadataOf entriesAt
    cases hl : d.lookup "metadata" with
    | none => rw [hl] at hmd; cases hmd; exact ⟨rfl, rfl⟩
    | some v => rw [hl] at hmd; cases hmd; exact ⟨rfl, rfl⟩
  simp only [transformable, hmeta.1, hmeta.2, Bool.true_and, Bool.and_eq_true]
  rw [lookup_ensureEntries, if_neg (by decide), lookup_ensureEntries, if_pos rfl] at hL
  rw [Dict.lookup_setKey_ne _ _ (by decide), lookup_ensureEntries, if_pos rfl,
    lookup_ensureEntries, if_neg (by decide)] at hA
  exact ⟨dictOrAbsent_of_or hL, dictOrAbsent_of_or hA⟩

/-! ## What the manifest holds -/

section Lookups

variable (request : RestoreRequest) (now : Nat)

theorem lookup_mapNamespace_of_ne (md : List (String × Value)) {k : String} (hk : k ≠ "namespace") :
    (mapNamespace request md).lookup k = md.lookup k := by
  unfold mapNamespace; split
  · split
    · exact Dict.lookup_setKey_ne _ _ hk
    · rfl
  · rfl

theorem contains_mapNamespace (md : List (String × Value)) {k : String} (hk : k ≠ "namespace") :
    Dict.contains (mapNamespace request md) k = Dict.contains md k := by
  apply Bool.eq_iff_iff.mpr
  rw [Dict.contains_iff_lookup, Dict.contains_iff_lookup, lookup_mapNamespace_of_ne request md hk]

theorem lookup_transformedMetadata_of_ne (md : List (String × Value)) {k : String}
    (hl : k ≠ "labels") (ha : k ≠ "annotations") (hn : k ≠ "namespace") :
    (transformedMetadata request now md).lookup k = md.lookup k := by
  rw [transformedMetadata, lookup_mapNamespace_of_ne request _ hn, Dict.lookup_setKey_ne _ _ ha,
    Dict.lookup_setKey_ne _ _ hl, lookup_ensureEntries, if_neg ha, lookup_ensureEntries, if_neg hl]

theorem lookup_transformedMetadata_labels (md : List (String × Value)) :
    (transformedMetadata request now md).lookup "labels" =
      some (.dict (Dict.update (entriesAt md "labels") (provenanceLabels request))) := by
  rw [transformedMetadata, lookup_mapNamespace_of_ne request _ (by decide),
    Dict.lookup_setKey_ne _ _ (by decide), Dict.lookup_setKey_self]

theorem lookup_transformedMetadata_annotations (md : List (String × Value)) :
    (transformedMetadata request now md).lookup "annotations" =
      some (.dict (Dict.update (entriesAt md "annotations") (provenanceAnnotations request now))) := by
  rw [transformedMetadata, lookup_mapNamespace_of_ne request _ (by decide), Dict.lookup_setKey_self]

theorem lookup_transformedMetadata_namespace (md : List (String × Value)) :
    (transformedMetadata request now md).lookup "namespace" =
      (mapNamespace request md).lookup "namespace" := by
  have hns : ∀ X : List (String × Value), X.lookup "namespace" = md.lookup "namespace" →
      (mapNamespace request X).lookup "namespace" = (mapNamespace request md).lookup "namespace" := by
    intro X hX
    unfold mapNamespace; split
    · rw [hX]; split <;> simp [Dict.lookup_setKey_self, hX]
    · exact hX
  apply hns
  rw [Dict.lookup_setKey_ne _ _ (by decide), Dict.lookup_setKey_ne _ _ (by decide),
    lookup_ensureEntries, if_neg (by decide), lookup_ensureEntries, if_neg (by decide)]

theorem lookup_transformedEntries_of_ne (d : List (String × Value)) {k : String} (hk : k ≠ "metadata") :
    (transformedEntries request now d).lookup k = d.lookup k :=
  Dict.lookup_setKey_ne _ _ hk

theorem lookup_transformedEntries_metadata (d : List (String × Value)) :
    (transformedEntries request now d).lookup "metadata" =
      some (.dict (transformedMetadata request now (metadataOf d))) :=
  Dict.lookup_setKey_self _ _ _

theorem metadataOf_transformedEntries (d : List (String × Value)) :
    metadataOf (transformedEntries request now d) = transformedMetadata request now (metadataOf d) := by
  simp only [metadataOf, entriesAt, lookup_transformedEntries_metadata]

theorem provenanceLabels_keys_nodup : ((provenanceLabels request).map Prod.fst).Nodup := by
  simp only [provenanceLabels, List.map]; decide

theorem provenanceAnnotations_keys_nodup : ((provenanceAnnotations request now).map Prod.fst).Nodup := by
  simp only [provenanceAnnotations, List.map]; decide

/-- The labels come out as the resource's, overridden by the three provenance labels. -/
theorem lookup_labelsOf_transformedEntries (d : List (String × Value)) (k : String) :
    (labelsOf (transformedEntries request now d)).lookup k =
      ((provenanceLabels request).lookup k).or ((labelsOf d).lookup k) := by
  simp only [labelsOf, metadataOf_transformedEntries, entriesAt, lookup_transformedMetadata_labels,
    Dict.lookup_update, Dict.lookup_reverse (provenanceLabels_keys_nodup request)]

theorem lookup_annotationsOf_transformedEntries (d : List (String × Value)) (k : String) :
    (annotationsOf (transformedEntries request now d)).lookup k =
      ((provenanceAnnotations request now).lookup k).or ((annotationsOf d).lookup k) := by
  simp only [annotationsOf, metadataOf_transformedEntries, entriesAt,
    lookup_transformedMetadata_annotations, Dict.lookup_update,
    Dict.lookup_reverse (provenanceAnnotations_keys_nodup request now)]

end Lookups

/-! ## Transforming twice -/

section Twice

variable (request : RestoreRequest)

theorem setKey_mapNamespace {key : String} (v : Value) {md : List (String × Value)}
    (hk : key ≠ "namespace") (hc : Dict.contains md key = true) :
    Dict.setKey key v (mapNamespace request md) = mapNamespace request (Dict.setKey key v md) := by
  unfold mapNamespace; split
  · rw [Dict.lookup_setKey_ne _ _ (Ne.symm hk)]
    split
    · exact Dict.setKey_comm v _ hc (Ne.symm hk)
    · rfl
  · rfl

theorem mapNamespace_mapNamespace (md : List (String × Value)) :
    mapNamespace request (mapNamespace request md) = mapNamespace request md := by
  unfold mapNamespace
  rcases request.targetNamespaces with _ | ⟨_ | ⟨ns, _ | ⟨_, _⟩⟩⟩ <;> simp only
  by_cases h : ((md.lookup "namespace").getD .none).truthy = true
  · rw [if_pos h, Dict.lookup_setKey_self]
    split
    · exact Dict.setKey_of_lookup (Dict.lookup_setKey_self _ _ _)
    · rfl
  · rw [if_neg h, if_neg h]

theorem contains_transformedMetadata (now : Nat) (md : List (String × Value)) {key : String}
    (h : key = "labels" ∨ key = "annotations") :
    Dict.contains (transformedMetadata request now md) key = true := by
  rw [Dict.contains_iff_lookup]
  rcases h with rfl | rfl
  · rw [lookup_transformedMetadata_labels]; rfl
  · rw [lookup_transformedMetadata_annotations]; rfl

/-- A second transformation of the metadata at `now₂` is one transformation at `now₂`. -/
theorem transformedMetadata_twice (now₁ now₂ : Nat) (md : List (String × Value)) :
    transformedMetadata request now₂ (transformedMetadata request now₁ md) =
      transformedMetadata request now₂ md := by
  have hens : ensureEntries (ensureEntries (transformedMetadata request now₁ md) "labels")
      "annotations" = transformedMetadata request now₁ md := by
    have h₁ : ensureEntries (transformedMetadata request now₁ md) "labels" =
        transformedMetadata request now₁ md :=
      if_pos (contains_transformedMetadata request now₁ md (.inl rfl))
    rw [h₁]
    exact if_pos (contains_transformedMetadata request now₁ md (.inr rfl))
  have hL : entriesAt (transformedMetadata request now₁ md) "labels" =
      Dict.update (entriesAt md "labels") (provenanceLabels request) := by
    simp only [entriesAt, lookup_transformedMetadata_labels]
  have hA : entriesAt (transformedMetadata request now₁ md) "annotations" =
      Dict.update (entriesAt md "annotations") (provenanceAnnotations request now₁) := by
    simp only [entriesAt, lookup_transformedMetadata_annotations]
  have hLL : Dict.update (Dict.update (entriesAt md "labels") (provenanceLabels request))
      (provenanceLabels request) = Dict.update (entriesAt md "labels") (provenanceLabels request) :=
    Dict.update_update rfl (provenanceLabels_keys_nodup request)
  have hAA : Dict.update (Dict.update (entriesAt md "annotations") (provenanceAnnotations request now₁))
      (provenanceAnnotations request now₂) =
      Dict.update (entriesAt md "annotations") (provenanceAnnotations request now₂) :=
    Dict.update_update rfl (provenanceAnnotations_keys_nodup request now₁)
  have hself : Dict.setKey "labels"
      (.dict (Dict.update (entriesAt md "labels") (provenanceLabels request)))
      (transformedMetadata request now₁ md) = transformedMetadata request now₁ md :=
    Dict.setKey_of_lookup (lookup_transformedMetadata_labels request now₁ md)
  conv_lhs => rw [transformedMetadata, hens, hL, hA, hLL, hAA, hself, transformedMetadata]
  rw [setKey_mapNamespace request _ (by decide) (by rw [Dict.contains_setKey]; simp),
    Dict.setKey_setKey_self, mapNamespace_mapNamespace, transformedMetadata]

theorem transformable_transformedEntries (now : Nat) (d : List (String × Value)) :
    transformable (transformedEntries request now d) = true := by
  simp [transformable, dictOrAbsent, lookup_transformedEntries_metadata, metadataOf_transformedEntries,
    lookup_transformedMetadata_labels, lookup_transformedMetadata_annotations]

/-- Transforming a manifest again at `now₂` gives what one transformation at `now₂` gives. -/
theorem applyGitopsTransformations_twice (now₁ now₂ : Nat) {d : List (String × Value)}
    (h : transformable d = true) :
    applyGitopsTransformations request now₂ (.dict (transformedEntries request now₁ d)) =
      applyGitopsTransformations request now₂ (.dict d) := by
  rw [applyGitopsTransformations_eq request now₂ (transformable_transformedEntries request now₁ d),
    applyGitopsTransformations_eq request now₂ h]
  conv_lhs => rw [transformedEntries, metadataOf_transformedEntries, transformedMetadata_twice,
    transformedEntries, Dict.setKey_setKey_self]
  rfl

end Twice

/-! ## The transformation law -/

/-- What the manifest `m` built from the resource `d` holds: every other key of the resource and of
its metadata, the labels overridden by `restore-id`, `source-backup` and `dr-scenario` and the
annotations by `restored-at`, `source-cluster` and `target-cluster`, read off the request and the
clock, and the namespace replaced by a single target namespace when it is non-empty. -/
structure TransformedFrom (request : RestoreRequest) (now : Nat) (d m : List (String × Value)) :
    Prop where
  others : ∀ k, k ≠ "metadata" → m.lookup k = d.lookup k
  metadata : m.lookup "metadata" = some (.dict (metadataOf m))
  metadataOthers : ∀ k, k ≠ "labels" → k ≠ "annotations" → k ≠ "namespace" →
    (metadataOf m).lookup k = (metadataOf d).lookup k
  labels : (metadataOf m).lookup "labels" = some (.dict (labelsOf m))
  labelsOverride : ∀ k, (labelsOf m).lookup k =
    ([("restore.gitops.io/restore-id", Value.str request.restoreId),
      ("restore.gitops.io/source-backup", .str request.backupId),
      ("restore.gitops.io/dr-scenario", .str request.drScenario.value)].lookup k).or
      ((labelsOf d).lookup k)
  annotations : (metadataOf m).lookup "annotations" = some (.dict (annotationsOf m))
  annotationsOverride : ∀ k, (annotationsOf m).lookup k =
    ([("restore.gitops.io/restored-at", Value.str (isoformat now)),
      ("restore.gitops.io/source-cluster", .str request.sourceCluster),
      ("restore.gitops.io/target-cluster", .str request.targetCluster)].lookup k).or
      ((annotationsOf d).lookup k)
  namespaceMapped : ∀ ns, request.targetNamespaces = some [ns] → (namespaceOf d).truthy = true →
    (metadataOf m).lookup "namespace" = some (.str ns)
  namespaceKept : ((∀ ns, request.targetNamespaces ≠ some [ns]) ∨ (namespaceOf d).truthy = false) →
    (metadataOf m).lookup "namespace" = (metadataOf d).lookup "namespace"

theorem transformedFrom_transformedEntries (request : RestoreRequest) (now : Nat)
    (d : List (String × Value)) : TransformedFrom request now d (transformedEntries request now d) where
  others _ hk := lookup_transformedEntries_of_ne request now d hk
  metadata := by rw [metadataOf_transformedEntries]; exact lookup_transformedEntries_metadata request now d
  metadataOthers _ hl ha hn := by
    rw [metadataOf_transformedEntries, lookup_transformedMetadata_of_ne request now _ hl ha hn]
  labels := by
    simp only [labelsOf, metadataOf_transformedEntries, entriesAt, lookup_transformedMetadata_labels]
  labelsOverride := lookup_labelsOf_transformedEntries request now d
  annotations := by
    simp only [annotationsOf, metadataOf_transformedEntries, entriesAt,
      lookup_transformedMetadata_annotations]
  annotationsOverride := lookup_annotationsOf_transformedEntries request now d
  namespaceMapped ns htn hns := by
    rw [metadataOf_transformedEntries, lookup_transformedMetadata_namespace, mapNamespace, htn]
    simp only [namespaceOf] at hns
    simp [hns, Dict.lookup_setKey_self]
  namespaceKept h := by
    rw [metadataOf_transformedEntries, lookup_transformedMetadata_namespace, mapNamespace]
    split
    · rename_i ns htn
      rcases h with h | h
      · exact absurd htn (h ns)
      · simp only [namespaceOf] at h; simp [h]
    · rfl

/-- **The transformation law.**  On a dictionary whose `metadata`, and its `labels` and
`annotations`, are dictionaries where present, `_apply_gitops_transformations` returns a manifest
built as `TransformedFrom` says; transforming that manifest again at any clock reading gives the
manifest one transformation at that reading gives, so it differs from the first at most in
`restored-at`. -/
theorem apply_gitops_transformations_law (request : RestoreRequest) (now : Nat)
    {d : List (String × Value)} (h : transformable d = true) :
    ∃ m, applyGitopsTransformations request now (.dict d) = .ok m ∧ TransformedFrom request now d m ∧
      ∀ now', applyGitopsTransformations request now' (.dict m) =
        applyGitopsTransformations request now' (.dict d) :=
  ⟨_, applyGitopsTransformations_eq request now h, transformedFrom_transformedEntries request now d,
    fun now' => applyGitopsTransformations_twice request now now' h⟩

/-- A request with one target namespace. -/
def requestOneNamespace : RestoreRequest :=
  ⟨"r", "b", "src", "dst", .namespace, .namespaceRecovery, some ["prod"], none, false⟩

/-- A `ConfigMap` with a name, a namespace and a label. -/
def configMapResource : List (String × Value) :=
  [("apiVersion", .str "v1"), ("kind", .str "ConfigMap"),
   ("metadata", .dict [("name", .str "web"), ("namespace", .str "default"),
     ("labels", .dict [("app", .str "web")])])]

theorem apply_gitops_transformations_law_configMap :
    transformable configMapResource = true ∧
      ∃ m, applyGitopsTransformations requestOneNamespace 0 (.dict configMapResource) = .ok m ∧
        TransformedFrom requestOneNamespace 0 configMapResource m ∧
        ∀ now', applyGitopsTransformations requestOneNamespace now' (.dict m) =
          applyGitopsTransformations requestOneNamespace now' (.dict configMapResource) :=
  have h : transformable configMapResource = true := by decide
  ⟨h, apply_gitops_transformations_law requestOneNamespace 0 h⟩

/-! ## What Preparation checks -/

theorem applyGitopsTransformations_ok_iff {request : RestoreRequest} {now : Nat} {r : Value}
    {m : List (String × Value)} :
    applyGitopsTransformations request now r = .ok m ↔
      ∃ d, r = .dict d ∧ transformable d = true ∧ m = transformedEntries request now d := by
  constructor
  · intro h
    cases r with
    | dict d =>
        have ht := transformable_of_apply_ok h
        rw [applyGitopsTransformations_eq request now ht] at h
        exact ⟨d, rfl, ht, (Except.ok.inj h).symm⟩
    | _ => cases h
  · rintro ⟨d, rfl, ht, rfl⟩
    exact applyGitopsTransformations_eq request now ht

theorem validateGitopsManifests_ok_iff (ms : List (List (String × Value))) :
    validateGitopsManifests ms = .ok () ↔
      ∀ m ∈ ms, Dict.contains m "apiVersion" = true ∧ Dict.contains m "kind" = true ∧
        Dict.contains m "metadata" = true := by
  induction ms with
  | nil => simp [validateGitopsManifests]
  | cons m ms ih =>
      simp only [validateGitopsManifests, List.mem_cons, forall_eq_or_imp, ← ih]
      by_cases ha : Dict.contains m "apiVersion" = true <;>
        by_cases hk : Dict.contains m "kind" = true <;>
        by_cases hm : Dict.contains m "metadata" = true <;> simp [ha, hk, hm]

theorem contains_transformedEntries (request : RestoreRequest) (now : Nat) (d : List (String × Value))
    (k : String) : Dict.contains (transformedEntries request now d) k =
      (k == "metadata" || Dict.contains d k) := by
  rw [transformedEntries, Dict.contains_setKey]

/-- The resources whose manifests pass `_validate_gitops_manifests`. -/
def PassesPreparation (r : Value) : Prop :=
  ∃ d, r = .dict d ∧ transformable d = true ∧ Dict.contains d "apiVersion" = true ∧
    Dict.contains d "kind" = true

/-- Transformation and validation succeed exactly on lists of resources that each transform and carry
`apiVersion` and `kind`. -/
theorem transform_validate_ok_iff (request : RestoreRequest) (now : Nat) (rs : List Value) :
    (∃ ms, transformToGitops request now rs = .ok ms ∧ validateGitopsManifests ms = .ok ()) ↔
      ∀ r ∈ rs, PassesPreparation r := by
  induction rs with
  | nil => exact ⟨fun _ _ h => absurd h (List.not_mem_nil _), fun _ => ⟨[], rfl, rfl⟩⟩
  | cons r rs ih =>
      simp only [transformToGitops, List.mapM_cons, bind, Except.bind] at ih ⊢
      rw [List.forall_mem_cons, ← ih]
      constructor
      · rintro ⟨ms, hms, hv⟩
        split at hms; · cases hms
        rename_i m hm
        split at hms; · cases hms
        rename_i ms' hms'
        cases hms
        obtain ⟨d, rfl, ht, rfl⟩ := applyGitopsTransformations_ok_iff.mp hm
        rw [validateGitopsManifests_ok_iff, List.forall_mem_cons, contains_transformedEntries,
          contains_transformedEntries] at hv
        refine ⟨⟨d, rfl, ht, by simpa using hv.1.1, by simpa using hv.1.2.1⟩,
          ⟨ms', hms', (validateGitopsManifests_ok_iff ms').mpr hv.2⟩⟩
      · rintro ⟨⟨d, rfl, ht, ha, hk⟩, ms, hms, hv⟩
        refine ⟨transformedEntries request now d :: ms, ?_, ?_⟩
        · rw [applyGitopsTransformations_eq request now ht, hms]; rfl
        · rw [validateGitopsManifests_ok_iff, List.forall_mem_cons, contains_transformedEntries,
            contains_transformedEntries, contains_transformedEntries]
          exact ⟨by simp [ha, hk], (validateGitopsManifests_ok_iff ms).mp hv⟩

theorem transformToGitops_ok {request : RestoreRequest} {now : Nat} :
    ∀ {rs : List Value} {ms : List (List (String × Value))},
      transformToGitops request now rs = .ok ms →
        List.Forall₂ (fun r m => ∃ d, r = .dict d ∧ TransformedFrom request now d m) rs ms
  | [], ms, h => by cases h; exact .nil
  | r :: rs, ms, h => by
      simp only [transformToGitops, List.mapM_cons, bind, Except.bind] at h
      split at h; · cases h
      rename_i m hm
      split at h; · cases h
      rename_i ms' hms'
      cases h
      obtain ⟨d, rfl, -, rfl⟩ := applyGitopsTransformations_ok_iff.mp hm
      exact .cons ⟨d, rfl, transformedFrom_transformedEntries request now d⟩ (transformToGitops_ok hms')

/-- The segment after `_load_backup_resources`: Preparation's checks, then the start of GitOps Sync. -/
theorem preparation_result (ctx : Ctx) (rs : List Value) (f : Frame) :
    ((resumeAt ctx .loadBackupResources (.resources rs)).run f).1 =
      match transformToGitops ctx.request ctx.now rs with
      | .error msg => .error msg
      | .ok ms =>
          match validateGitopsManifests ms with
          | .error msg => .error msg
          | .ok () => .ok (.await .commitGitopsManifests) := by
  show ((do call ctx .loadBackupResources; phasePreparationFinish ctx rs : TaskM Next).run f).1 = _
  simp only [call, perform, phasePreparationFinish, TaskM.run_bind, TaskM.run_get,
    TaskM.run_modify, run_liftExcept]
  rcases transformToGitops ctx.request ctx.now rs with msg | ms
  · rfl
  · simp only
    rcases validateGitopsManifests ms with msg | ⟨⟩ <;> rfl

/-- Preparation goes on to GitOps Sync exactly when every resource passes its checks. -/
theorem preparation_ok_iff (ctx : Ctx) (f : Frame) (rs : List Value) :
    ((resumeAt ctx .loadBackupResources (.resources rs)).run f).1 =
        .ok (.await .commitGitopsManifests) ↔ ∀ r ∈ rs, PassesPreparation r := by
  rw [preparation_result, ← transform_validate_ok_iff]
  rcases transformToGitops ctx.request ctx.now rs with msg | ms
  · simp
  · rcases hv : validateGitopsManifests ms with msg | ⟨⟩ <;> simp [hv]

/-- **Preparation checks less than the spec asks.**  For every context, frame and list of backup
resources, the segment after `_load_backup_resources` goes on to GitOps Sync exactly when every
resource is a dictionary that transforms and carries `apiVersion` and `kind`, and every manifest it
built is `TransformedFrom` its resource.  `metadata` is always present after the transformation, so
its check never fails, and `metadata.name` is never looked at: a resource with `apiVersion` and
`kind` and no metadata passes, and its manifest has no name. -/
theorem preparation_skips_metadata_name :
    (∀ (ctx : Ctx) (f : Frame) (rs : List Value),
      (((resumeAt ctx .loadBackupResources (.resources rs)).run f).1 =
          .ok (.await .commitGitopsManifests) ↔ ∀ r ∈ rs, PassesPreparation r) ∧
        ∀ ms, transformToGitops ctx.request ctx.now rs = .ok ms →
          List.Forall₂ (fun r m => ∃ d, r = .dict d ∧ TransformedFrom ctx.request ctx.now d m) rs ms) ∧
      ∀ (ctx : Ctx) (f : Frame),
        ((resumeAt ctx .loadBackupResources
            (.resources [.dict [("apiVersion", .str "v1"), ("kind", .str "ConfigMap")]])).run f).1 =
          .ok (.await .commitGitopsManifests) ∧
        ∃ m, transformToGitops ctx.request ctx.now
            [.dict [("apiVersion", .str "v1"), ("kind", .str "ConfigMap")]] = .ok [m] ∧
          (metadataOf m).lookup "name" = none := by
  refine ⟨fun ctx f rs => ⟨preparation_ok_iff ctx f rs, fun ms => transformToGitops_ok⟩,
    fun ctx f => ⟨?_, ?_⟩⟩
  · refine (preparation_ok_iff ctx f _).mpr fun r hr => ?_
    rw [List.mem_singleton.mp hr]
    exact ⟨_, rfl, by decide, by decide, by decide⟩
  · refine ⟨transformedEntries ctx.request ctx.now
      [("apiVersion", .str "v1"), ("kind", .str "ConfigMap")], ?_, ?_⟩
    · simp only [transformToGitops, List.mapM_cons, List.mapM_nil, bind, Except.bind,
        applyGitopsTransformations_eq ctx.request ctx.now (by decide : transformable
          [("apiVersion", .str "v1"), ("kind", .str "ConfigMap")] = true)]
      rfl
    · rw [metadataOf_transformedEntries, lookup_transformedMetadata_of_ne _ _ _ (by decide) (by decide)
        (by decide)]
      rfl

end Restore
end Tkkube
