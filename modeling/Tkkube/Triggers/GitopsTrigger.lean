import Tkkube.Config.Validation

/-!
# Backup completion events and the trigger handler

`BackupCompletionEvent` and `GitOpsTriggerHandler.handle_backup_completion` of
`shared/triggers/gitops_trigger.py`.

The dataclass checks no types, so a field holds whatever object its keyword argument was: a
decoded JSON value, or the `datetime` that `from_dict` writes over a timestamp.  `construct` is the
generated `__init__` called as `cls(**data)`: the keywords are bound in order, the first that names
no field (or names `self`) raises, and then a field without a default that got no keyword raises.
The texts are CPython's.  `datetime.fromisoformat` and `datetime.fromtimestamp` are not modelled:
they are the oracles of `Datetimes`, and a `datetime` is known only by its `isoformat()`.

`fromDict_of_complete`: on a complete set of fields whose timestamp converts, `from_dict` builds
exactly the event the fields describe (`describedEvent`).  `construct_error_of_not_field`: one
keyword that names no field is enough for `cls(**data)` to raise.  `toDict` is `to_dict` followed by
`json.dump`, as a trigger file is written, and `fromDict_toDict` says that `from_dict` rebuilds the
event from what it wrote.

`handle_backup_completion` runs the generator in a subprocess; what that run gives (its output, or
the text of what it raised) is an oracle, as are the clock readings.
-/

namespace Tkkube
namespace Triggers

open Config Validation

/-- A `datetime`, by its `isoformat()`. -/
structure Datetime where
  isoformat : String
  deriving DecidableEq, Repr

/-- A keyword argument of `cls(**data)`: a decoded value, or the `datetime` `from_dict` wrote in its
place. -/
inductive Arg where
  | value (v : Value)
  | datetime (d : Datetime)
  deriving Repr

/-- `str(arg)`; `str` of a `datetime` is its `isoformat(' ')`. -/
def Arg.pyStr : Arg → String
  | .value v => Validation.pyStr v
  | .datetime d => d.isoformat.replace "T" " "

/-- `json.dumps` of an argument: a `datetime` is not JSON serializable. -/
def Arg.toJson : Arg → Except String Value
  | .value v => .ok v
  | .datetime _ => .error "Object of type datetime is not JSON serializable"

/-- The fields of `BackupCompletionEvent`, in declaration order. -/
def fieldNames : List String :=
  ["backup_id", "cluster_name", "timestamp", "duration", "namespaces_count", "resources_count",
    "success", "errors", "minio_bucket", "backup_size", "backup_location", "metadata"]

/-- The fields without a default: the first nine. -/
def requiredFields : List String :=
  fieldNames.take 9

/-- `BackupCompletionEvent`, with the defaults of its last three fields. -/
structure BackupCompletionEvent where
  backupId : Arg
  clusterName : Arg
  timestamp : Arg
  duration : Arg
  namespacesCount : Arg
  resourcesCount : Arg
  success : Arg
  errors : Arg
  minioBucket : Arg
  backupSize : Arg := .value .none
  backupLocation : Arg := .value (.str "")
  metadata : Arg := .value .none
  deriving Repr

/-! ## `cls(**data)` -/

/-- The names after the first of three or more: each followed by a comma, `and` before the last. -/
def joinSerial : List String → String
  | [] => ""
  | [a] => "and " ++ a
  | a :: rest => a ++ ", " ++ joinSerial rest

/-- CPython's list of missing arguments: `'a'`, `'a' and 'b'`, `'a', 'b', and 'c'`. -/
def formatMissing : List String → String
  | [a] => a
  | [a, b] => a ++ " and " ++ b
  | names => joinSerial names

/-- The event the generated `__init__` builds once every keyword is bound. -/
def build (kwargs : List (String × Arg)) : BackupCompletionEvent :=
  let field (name : String) (default : Arg) : Arg := (kwargs.lookup name).getD default
  { backupId := field "backup_id" (.value .none)
    clusterName := field "cluster_name" (.value .none)
    timestamp := field "timestamp" (.value .none)
    duration := field "duration" (.value .none)
    namespacesCount := field "namespaces_count" (.value .none)
    resourcesCount := field "resources_count" (.value .none)
    success := field "success" (.value .none)
    errors := field "errors" (.value .none)
    minioBucket := field "minio_bucket" (.value .none)
    backupSize := field "backup_size" (.value .none)
    backupLocation := field "backup_location" (.value (.str ""))
    metadata := field "metadata" (.value .none) }

/-- Whether a keyword fails to bind: it names `self`, which the receiver already holds, or no
parameter at all. -/
def unbound (kv : String × Arg) : Bool :=
  kv.1 == "self" || !fieldNames.contains kv.1

/-- `BackupCompletionEvent(**kwargs)`. -/
def construct (kwargs : List (String × Arg)) : Except String BackupCompletionEvent :=
  match kwargs.find? unbound with
  | some ("self", _) =>
      .error "BackupCompletionEvent.__init__() got multiple values for argument 'self'"
  | some (k, _) =>
      .error ("BackupCompletionEvent.__init__() got an unexpected keyword argument '" ++ k ++ "'")
  | none =>
      match requiredFields.filter fun f => !(kwargs.map (·.1)).contains f with
      | [] => .ok (build kwargs)
      | missing =>
          .error ("BackupCompletionEvent.__init__() missing " ++ toString missing.length ++
            " required positional argument" ++ (if missing.length = 1 then "" else "s") ++ ": " ++
            formatMissing (missing.map Value.quote))

/-! ## `from_dict` -/

/-- `datetime.fromisoformat` and `datetime.fromtimestamp`, each of which may raise. -/
structure Datetimes where
  fromisoformat : String → Except String Datetime
  fromtimestamp : ℚ → Except String Datetime

/-- `data[key] = arg`: an existing entry keeps its position. -/
def setArg (key : String) (arg : Arg) : List (String × Arg) → List (String × Arg)
  | [] => [(key, arg)]
  | (k, a) :: rest => if k = key then (key, arg) :: rest else (k, a) :: setArg key arg rest

/-- The keyword arguments of a decoded dictionary. -/
def argsOf (entries : List (String × Value)) : List (String × Arg) :=
  entries.map fun kv => (kv.1, .value kv.2)

/-- `BackupCompletionEvent.from_dict(data)`: a string timestamp goes through `fromisoformat` with
`Z` spelled `+00:00`, a number (a `bool` is an `int`) through `fromtimestamp`, and anything else is
passed on as it is. -/
def fromDict (dt : Datetimes) (data : Value) : Except String BackupCompletionEvent := do
  let entries ← getEntries data
  match entries.lookup "timestamp" with
  | some (.str s) => do
      let d ← dt.fromisoformat (s.replace "Z" "+00:00")
      construct (setArg "timestamp" (.datetime d) (argsOf entries))
  | some v =>
      match numeric? v with
      | some x => do
          let d ← dt.fromtimestamp x
          construct (setArg "timestamp" (.datetime d) (argsOf entries))
      | none => construct (argsOf entries)
  | none => construct (argsOf entries)

/-! ## What `from_dict` builds -/

/-- A complete set of fields: every key names a field, and every field without a default is
there. -/
def Complete (fields : List (String × Value)) : Prop :=
  (∀ kv ∈ fields, kv.1 ∈ fieldNames) ∧ ∀ f ∈ requiredFields, Dict.contains fields f = true

instance (fields : List (String × Value)) : Decidable (Complete fields) :=
  inferInstanceAs (Decidable (_ ∧ _))

/-- The `datetime` a JSON timestamp denotes: an ISO string, with `Z` for `+00:00`, or a number of
seconds since the epoch. -/
def Denotes (dt : Datetimes) (v : Value) (stamp : Datetime) : Prop :=
  match v with
  | .str s => dt.fromisoformat (s.replace "Z" "+00:00") = .ok stamp
  | v => ∃ x, numeric? v = some x ∧ dt.fromtimestamp x = .ok stamp

/-- The event a set of fields describes, its timestamp denoting `stamp`: each field holds its
value, and an absent optional field its default. -/
def describedEvent (fields : List (String × Value)) (stamp : Datetime) : BackupCompletionEvent :=
  let field (name : String) (default : Value) : Arg := .value ((fields.lookup name).getD default)
  { backupId := field "backup_id" .none
    clusterName := field "cluster_name" .none
    timestamp := .datetime stamp
    duration := field "duration" .none
    namespacesCount := field "namespaces_count" .none
    resourcesCount := field "resources_count" .none
    success := field "success" .none
    errors := field "errors" .none
    minioBucket := field "minio_bucket" .none
    backupSize := field "backup_size" .none
    backupLocation := field "backup_location" (.str "")
    metadata := field "metadata" .none }

/-- Keywords that all name fields, with every field without a default among them, bind. -/
theorem construct_of_keys {kwargs : List (String × Arg)}
    (hkeys : ∀ kv ∈ kwargs, kv.1 ∈ fieldNames)
    (hreq : ∀ f ∈ requiredFields, kwargs.any (·.1 == f) = true) :
    construct kwargs = .ok (build kwargs) := by
  have hfind : kwargs.find? unbound = none := List.find?_eq_none.mpr fun kv hkv => by
    have hk := hkeys kv hkv
    have hself : kv.1 ≠ "self" := by rintro h; rw [h] at hk; exact absurd hk (by decide)
    simp [unbound, hself, hk]
  have hmissing : (requiredFields.filter fun f => !(kwargs.map (·.1)).contains f) = [] :=
    List.filter_eq_nil_iff.mpr fun f hf => by simpa [List.any_map] using hreq f hf
  rw [construct, hfind]
  simp only [hmissing]

/-- One keyword that names no field makes `cls(**kwargs)` raise. -/
theorem construct_error_of_not_field {kwargs : List (String × Arg)} {kv : String × Arg}
    (hkv : kv ∈ kwargs) (hk : kv.1 ∉ fieldNames) : ∃ e, construct kwargs = .error e := by
  cases hf : kwargs.find? unbound with
  | none => exact absurd (List.find?_eq_none.mp hf kv hkv) (by simp [unbound, hk])
  | some kv' =>
      unfold construct
      rw [hf]
      split <;> first | exact ⟨_, rfl⟩ | cases ‹some _ = none›

theorem mem_setArg {key : String} {arg : Arg} {kwargs : List (String × Arg)}
    {kv : String × Arg} (h : kv ∈ setArg key arg kwargs) : kv = (key, arg) ∨ kv ∈ kwargs := by
  induction kwargs with
  | nil => exact .inl (List.mem_singleton.mp h)
  | cons kv' rest ih =>
      unfold setArg at h
      split at h
      · rcases List.mem_cons.mp h with rfl | h
        · exact .inl rfl
        · exact .inr (List.mem_cons_of_mem _ h)
      · rcases List.mem_cons.mp h with rfl | h
        · exact .inr (List.mem_cons_self _ _)
        · exact (ih h).imp_right (List.mem_cons_of_mem _)

theorem mem_setArg_of_ne {key : String} {arg : Arg} {kwargs : List (String × Arg)}
    {kv : String × Arg} (h : kv ∈ kwargs) (hk : kv.1 ≠ key) : kv ∈ setArg key arg kwargs := by
  induction kwargs with
  | nil => cases h
  | cons kv' rest ih =>
      unfold setArg
      rcases List.mem_cons.mp h with rfl | h
      · rw [if_neg hk]; exact List.mem_cons_self _ _
      · split
        · exact List.mem_cons_of_mem _ h
        · exact List.mem_cons_of_mem _ (ih h)

theorem any_setArg (key f : String) (arg : Arg) (kwargs : List (String × Arg)) :
    (setArg key arg kwargs).any (·.1 == f) = (key == f || kwargs.any (·.1 == f)) := by
  induction kwargs with
  | nil => simp [setArg]
  | cons kv rest ih =>
      unfold setArg
      split
      · rename_i h; simp [h]
      · simp only [List.any_cons, ih]; cases key == f <;> cases kv.1 == f <;> rfl

theorem lookup_setArg (key name : String) (arg : Arg) (kwargs : List (String × Arg)) :
    (setArg key arg kwargs).lookup name = if name = key then some arg else kwargs.lookup name := by
  induction kwargs with
  | nil => simp only [setArg, List.lookup_cons]; split <;> simp_all
  | cons kv rest ih =>
      obtain ⟨k, a⟩ := kv
      by_cases hk : k = key
      · subst hk; rw [setArg, if_pos rfl]; simp only [List.lookup_cons]; split <;> simp_all
      · simp only [setArg, if_neg hk, List.lookup_cons, ih]; split <;> simp_all

theorem lookup_argsOf (entries : List (String × Value)) (name : String) :
    (argsOf entries).lookup name = (entries.lookup name).map .value := by
  induction entries with
  | nil => rfl
  | cons kv rest ih =>
      obtain ⟨k, v⟩ := kv
      simp only [argsOf, List.map_cons, List.lookup_cons] at ih ⊢
      split <;> simp_all

theorem any_argsOf (entries : List (String × Value)) (f : String) :
    (argsOf entries).any (·.1 == f) = Dict.contains entries f := by
  induction entries with
  | nil => rfl
  | cons kv rest ih => simp only [argsOf, Dict.contains, List.map_cons, List.any_cons] at ih ⊢; rw [ih]

/-- Building from the converted fields gives the event they describe. -/
theorem build_setArg_argsOf (fields : List (String × Value)) (stamp : Datetime) :
    build (setArg "timestamp" (.datetime stamp) (argsOf fields)) = describedEvent fields stamp := by
  simp [build, describedEvent, lookup_setArg, lookup_argsOf]

/-- **`from_dict` builds the event its fields describe**, when they are complete and the timestamp
denotes a `datetime`. -/
theorem fromDict_of_complete (dt : Datetimes) {fields : List (String × Value)}
    (hc : Complete fields) {stamp : Datetime}
    (hs : Denotes dt ((fields.lookup "timestamp").getD .none) stamp) :
    fromDict dt (.dict fields) = .ok (describedEvent fields stamp) := by
  have hbuilt : construct (setArg "timestamp" (.datetime stamp) (argsOf fields)) =
      .ok (describedEvent fields stamp) := by
    rw [construct_of_keys (fun kv hkv => ?_) (fun f hf => ?_), build_setArg_argsOf]
    · rcases mem_setArg hkv with rfl | hkv
      · exact (by decide : "timestamp" ∈ fieldNames)
      · obtain ⟨kv', hkv', rfl⟩ := List.mem_map.mp hkv
        exact hc.1 kv' hkv'
    · rw [any_setArg, any_argsOf, hc.2 f hf, Bool.or_true]
  obtain ⟨v, hv⟩ := Option.isSome_iff_exists.mp
    (Dict.contains_iff_lookup.mp (hc.2 "timestamp" (by decide)))
  rw [hv, Option.getD_some] at hs
  simp only [fromDict, getEntries, bind, Except.bind, hv]
  cases v
  case str s => simp only [Denotes] at hs; simp only [hs]; exact hbuilt
  all_goals
    obtain ⟨x, hx, hd⟩ := hs
    simp only [hx, hd]
    exact hbuilt

/-- A key that names no field makes `from_dict` raise, whatever the timestamp. -/
theorem fromDict_error_of_not_field (dt : Datetimes) {entries : List (String × Value)}
    {k : String} {v : Value} (hkv : (k, v) ∈ entries) (hk : k ∉ fieldNames) :
    ∃ e, fromDict dt (.dict entries) = .error e := by
  have hargs : (k, Arg.value v) ∈ argsOf entries := List.mem_map_of_mem _ hkv
  have hset : ∀ d, (k, Arg.value v) ∈ setArg "timestamp" (.datetime d) (argsOf entries) :=
    fun d => mem_setArg_of_ne hargs (by rintro rfl; exact hk (by decide))
  simp only [fromDict, getEntries, bind, Except.bind]
  split
  · cases dt.fromisoformat _ with
    | error e => exact ⟨e, rfl⟩
    | ok d => exact construct_error_of_not_field (hset d) hk
  · split
    · cases dt.fromtimestamp _ with
      | error e => exact ⟨e, rfl⟩
      | ok d => exact construct_error_of_not_field (hset d) hk
    · exact construct_error_of_not_field hargs hk
  · exact construct_error_of_not_field hargs hk

/-! ## `to_dict`, as `json.dump` writes it -/

/-- `asdict(self)`: the fields in declaration order. -/
def BackupCompletionEvent.asdict (e : BackupCompletionEvent) : List (String × Arg) :=
  [("backup_id", e.backupId), ("cluster_name", e.clusterName), ("timestamp", e.timestamp),
    ("duration", e.duration), ("namespaces_count", e.namespacesCount),
    ("resources_count", e.resourcesCount), ("success", e.success), ("errors", e.errors),
    ("minio_bucket", e.minioBucket), ("backup_size", e.backupSize),
    ("backup_location", e.backupLocation), ("metadata", e.metadata)]

/-- `arg.isoformat()`: only a `datetime` has the method. -/
def Arg.isoformat : Arg → Except String String
  | .datetime d => .ok d.isoformat
  | .value v => .error ("'" ++ v.typeName ++ "' object has no attribute 'isoformat'")

/-- `json.dump` of a dictionary's entries, in order. -/
def jsonFields : List (String × Arg) → Except String (List (String × Value))
  | [] => .ok []
  | (k, a) :: rest => do
      let v ← a.toJson
      let entries ← jsonFields rest
      pure ((k, v) :: entries)

/-- `event.to_dict()` and then `json.dump`: the timestamp is replaced by its `isoformat()` in its
place, and every other field must be a JSON value. -/
def BackupCompletionEvent.toDict (e : BackupCompletionEvent) : Except String Value := do
  let stamp ← e.timestamp.isoformat
  let entries ← jsonFields (setArg "timestamp" (.value (.str stamp)) e.asdict)
  pure (.dict entries)

theorem Arg.eq_of_toJson {a : Arg} {v : Value} (h : a.toJson = .ok v) : a = .value v := by
  cases a <;> cases h; rfl

theorem eq_argsOf_of_jsonFields {kwargs : List (String × Arg)} {entries : List (String × Value)}
    (h : jsonFields kwargs = .ok entries) : kwargs = argsOf entries := by
  induction kwargs generalizing entries with
  | nil => cases h; rfl
  | cons kv rest ih =>
      obtain ⟨k, a⟩ := kv
      simp only [jsonFields, bind, Except.bind, pure, Except.pure] at h
      split at h
      · cases h
      · rename_i v hv
        split at h
        · cases h
        · rename_i r hr
          cases h
          rw [Arg.eq_of_toJson hv, ih hr]
          rfl

/-- `cls(**asdict(e))` builds `e` again. -/
theorem construct_asdict (e : BackupCompletionEvent) : construct e.asdict = .ok e := rfl

/-- Writing the timestamp's `datetime` back over what `to_dict` put there restores the fields. -/
theorem setArg_asdict_timestamp {e : BackupCompletionEvent} {d : Datetime}
    (ht : e.timestamp = .datetime d) (a : Arg) :
    setArg "timestamp" (.datetime d) (setArg "timestamp" a e.asdict) = e.asdict := by
  cases e; cases ht; rfl

/-- **`from_dict` reads back what `to_dict` wrote.**  An event whose timestamp is a `datetime` that
`fromisoformat` reads back from its `isoformat()`, and which `json.dump` can write, is rebuilt field
by field from the decoded dictionary. -/
theorem fromDict_toDict (dt : Datetimes) {e : BackupCompletionEvent} {v : Value} {d : Datetime}
    (he : e.toDict = .ok v) (ht : e.timestamp = .datetime d)
    (hd : dt.fromisoformat (d.isoformat.replace "Z" "+00:00") = .ok d) :
    fromDict dt v = .ok e := by
  simp only [BackupCompletionEvent.toDict, ht, Arg.isoformat, bind, Except.bind, pure,
    Except.pure] at he
  split at he
  · cases he
  · rename_i entries hj
    cases he
    have hargs := eq_argsOf_of_jsonFields hj
    have hlookup := congrArg (List.lookup "timestamp") hargs
    rw [lookup_argsOf, lookup_setArg, if_pos rfl] at hlookup
    obtain ⟨_, hstamp, hv⟩ := Option.map_eq_some'.mp hlookup.symm
    cases hv
    simp only [fromDict, getEntries, hstamp, hd, bind, Except.bind]
    rw [← hargs, setArg_asdict_timestamp ht, construct_asdict]

/-- The event of a completed backup. -/
def sampleEvent : BackupCompletionEvent :=
  { backupId := .value (.str "backup-1"), clusterName := .value (.str "prod"),
    timestamp := .datetime ⟨"2024-01-01T00:00:00"⟩, duration := .value (.float 120),
    namespacesCount := .value (.int 5), resourcesCount := .value (.int 50),
    success := .value (.bool true), errors := .value (.list []),
    minioBucket := .value (.str "backups") }

/-- A clock that reads every ISO timestamp as the sample's. -/
def sampleDatetimes : Datetimes :=
  ⟨fun _ => .ok ⟨"2024-01-01T00:00:00"⟩, fun _ => .error "year is out of range"⟩

theorem fromDict_toDict_sampleEvent :
    ∃ v, sampleEvent.toDict = .ok v ∧ sampleEvent.timestamp = .datetime ⟨"2024-01-01T00:00:00"⟩ ∧
      sampleDatetimes.fromisoformat ("2024-01-01T00:00:00".replace "Z" "+00:00") =
        .ok ⟨"2024-01-01T00:00:00"⟩ ∧ fromDict sampleDatetimes v = .ok sampleEvent :=
  ⟨_, rfl, rfl, rfl, fromDict_toDict sampleDatetimes (by exact rfl) rfl rfl⟩

/-! ## The trigger handler -/

/-- `GitOpsTriggerResult`. -/
structure GitOpsTriggerResult where
  success : Bool
  timestamp : Datetime
  duration : ℚ
  method : String
  output : String := ""
  error : String := ""
  metadata : Option (List (String × Arg)) := none

/-- What `handle_backup_completion` reads besides the event: the loaded configuration, the clock
(the start time and the seconds elapsed), and what `_trigger_gitops_generation` does: its output,
or the text of what it raised. -/
structure TriggerHandler where
  config : SharedConfig
  startTime : Datetime
  elapsed : ℚ
  generate : BackupCompletionEvent → Except String String

/-- `GitOpsTriggerHandler.handle_backup_completion(event)`: it never raises. -/
def TriggerHandler.handleBackupCompletion (h : TriggerHandler) (event : BackupCompletionEvent) :
    GitOpsTriggerResult :=
  if !h.config.pipeline.automation.enabled then
    { success := true, timestamp := h.startTime, duration := 0, method := "disabled",
      output := "Auto-triggering is disabled in configuration" }
  else
    match h.generate event with
    | .ok output =>
        { success := true, timestamp := h.startTime, duration := h.elapsed,
          method := "direct_invocation", output,
          metadata := some [("backup_id", event.backupId), ("cluster", event.clusterName),
            ("resources_processed", .value (.str event.resourcesCount.pyStr))] }
    | .error error =>
        { success := false, timestamp := h.startTime, duration := h.elapsed,
          method := "direct_invocation", error }

end Triggers
end Tkkube
