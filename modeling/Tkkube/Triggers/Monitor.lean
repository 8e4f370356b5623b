import Tkkube.Triggers.GitopsTrigger

/-!
# The trigger-file monitor

`GitOpsTriggerHandler.monitor_trigger_files` of `shared/triggers/gitops_trigger.py`.  Each pass of
its `while True` loop lists the files of the trigger directory that match `backup-complete-*.json`
and visits them in turn:

* a name in `processed_files` is skipped;
* otherwise the file is read with `json.load` and turned into an event by `from_dict`; an error of
  either is logged and the file is left as it is;
* `handle_backup_completion` is called with the event; on success the name goes into
  `processed_files` and the file is unlinked, on failure the file is left as it is.

Between two passes other processes write trigger files (`Pass.arrivals`), and
`handle_backup_completion` answers each call of the pass as the generator's run and the clock make
it answer (`Pass.trigger`, by the name of the file it is called for).  The logger, `time.sleep`, the
`KeyboardInterrupt` that ends the loop and the outer `except` around a failing listing are not
modelled, and a directory is listed as it stands at the start of the pass.

`scanFiles_eq_scanSpec` says what a pass does at once: it calls the trigger for each listed file
whose name is not processed and whose content reads as an event, and then has processed and removed
exactly the files whose call succeeded.  Over every run:

* `run_pairwise`: no name is handled again once a call for it succeeded;
* `run_processed_stays`: a processed name is never handled again, and a file of that name, also one
  written after the fact, is never removed;
* `run_removed`: a file leaves the directory only after a call for its name succeeded;
* `scanFiles_perm`: the order in which the directory is listed changes only the order of the calls;
* `run_retries`: a file whose handling keeps failing is handled again at every pass.
-/

namespace Tkkube
namespace Triggers

/-- A file of the trigger directory: its name, and what `json.load` makes of its content. -/
structure TriggerFile where
  name : String
  content : Except String Value

/-- The trigger directory: its files in the order the directory lists them, no two of one name. -/
@[ext] structure TriggerDir where
  files : List TriggerFile
  nodup : (files.map TriggerFile.name).Nodup

namespace TriggerDir

/-- The names of the files. -/
def names (d : TriggerDir) : List String :=
  d.files.map TriggerFile.name

theorem nodup_filter (d : TriggerDir) (p : TriggerFile → Bool) :
    ((d.files.filter p).map TriggerFile.name).Nodup :=
  d.nodup.sublist ((List.filter_sublist _).map _)

/-- `Path(name).unlink()`. -/
def unlink (d : TriggerDir) (name : String) : TriggerDir :=
  ⟨d.files.filter (·.name ≠ name), d.nodup_filter _⟩

/-- The directory without the files of the names `gone`. -/
def remove (d : TriggerDir) (gone : List String) : TriggerDir :=
  ⟨d.files.filter (·.name ∉ gone), d.nodup_filter _⟩

/-- Another process writes `file`: a file of the same name is replaced. -/
def write (d : TriggerDir) (file : TriggerFile) : TriggerDir :=
  ⟨(d.unlink file.name).files ++ [file], by
    rw [List.map_append]
    refine List.pairwise_append.mpr ⟨(d.unlink file.name).nodup, List.pairwise_singleton _ _, ?_⟩
    simp only [List.map_cons, List.map_nil, List.mem_singleton]
    rintro _ ha _ rfl
    obtain ⟨x, hx, rfl⟩ := List.mem_map.mp ha
    exact of_decide_eq_true (List.mem_filter.mp hx).2⟩

@[simp] theorem remove_nil (d : TriggerDir) : d.remove [] = d := by
  ext1; simp [remove]

theorem unlink_remove (d : TriggerDir) (name : String) (gone : List String) :
    (d.unlink name).remove gone = d.remove (name :: gone) := by
  ext1; simp only [remove, unlink, List.filter_filter, List.mem_cons, not_or]
  congr; funext f; simp [Bool.and_comm]

theorem mem_names_remove {d : TriggerDir} {gone : List String} {n : String} :
    n ∈ (d.remove gone).names ↔ n ∈ d.names ∧ n ∉ gone := by
  simp only [names, remove, List.mem_map, List.mem_filter, decide_eq_true_eq]
  constructor
  · rintro ⟨f, ⟨hf, hg⟩, rfl⟩; exact ⟨⟨f, hf, rfl⟩, hg⟩
  · rintro ⟨⟨f, hf, rfl⟩, hg⟩; exact ⟨f, ⟨hf, hg⟩, rfl⟩

theorem mem_names_write {d : TriggerDir} {file : TriggerFile} {n : String} :
    n ∈ (d.write file).names ↔ n ∈ d.names ∨ n = file.name := by
  simp only [names, write, unlink, List.map_append, List.mem_append, List.map_cons, List.map_nil,
    List.mem_singleton, List.mem_map, List.mem_filter, decide_eq_true_eq]
  constructor
  · rintro (⟨f, ⟨hf, -⟩, rfl⟩ | rfl)
    · exact .inl ⟨f, hf, rfl⟩
    · exact .inr rfl
  · rintro (⟨f, hf, rfl⟩ | rfl)
    · by_cases h : f.name = file.name
      · exact .inr h
      · exact .inl ⟨f, ⟨hf, h⟩, rfl⟩
    · exact .inr rfl

theorem mem_names_writeAll {d : TriggerDir} {n : String} (files : List TriggerFile)
    (h : n ∈ d.names) : n ∈ (files.foldl write d).names := by
  induction files generalizing d with
  | nil => exact h
  | cons file files ih => exact ih (mem_names_write.mpr (.inl h))

theorem mem_files_writeAll {d : TriggerDir} {f : TriggerFile} {files : List TriggerFile}
    (h : f ∈ d.files) (hne : ∀ a ∈ files, a.name ≠ f.name) : f ∈ (files.foldl write d).files := by
  induction files generalizing d with
  | nil => exact h
  | cons file files ih =>
      refine ih ?_ fun a ha => hne a (List.mem_cons_of_mem _ ha)
      simp only [write, unlink, List.mem_append, List.mem_filter]
      exact .inl ⟨h, decide_eq_true (hne file (List.mem_cons_self _ _)).symm⟩

end TriggerDir

/-- What `Path(trigger_dir).glob("backup-complete-*.json")` keeps of a name: the `*` takes what lies
between the prefix and the suffix, which cannot overlap. -/
def isTriggerName (name : String) : Bool :=
  "backup-complete-".data.isPrefixOf name.data && ".json".data.isSuffixOf name.data

/-- The state of `monitor_trigger_files` between two files: `processed_files` and the directory. -/
structure Monitor where
  processed : List String
  dir : TriggerDir

/-- The monitor as it starts, over the directory as it is: `processed_files = set()`. -/
def Monitor.start (dir : TriggerDir) : Monitor :=
  ⟨[], dir⟩

/-- A call of `handle_backup_completion`: the trigger file's name, its event, and the result. -/
structure Call where
  name : String
  event : BackupCompletionEvent
  result : GitOpsTriggerResult

/-- What the world does in one pass of the loop: the trigger files other processes wrote since the
last listing, in order, and what `handle_backup_completion` answers for the file of each name. -/
structure Pass where
  arrivals : List TriggerFile
  trigger : String → BackupCompletionEvent → GitOpsTriggerResult

/-- `json.load(f)`, then `BackupCompletionEvent.from_dict(event_data)`. -/
def readEvent (dt : Datetimes) (file : TriggerFile) : Except String BackupCompletionEvent :=
  file.content >>= fromDict dt

section Scan

variable (dt : Datetimes) (trigger : String → BackupCompletionEvent → GitOpsTriggerResult)

/-- The body of the `for` loop for one listed file: the monitor after it, and the call it made. -/
def Monitor.visit (m : Monitor) (file : TriggerFile) : Monitor × List Call :=
  if file.name ∈ m.processed then (m, [])
  else
    match readEvent dt file with
    | .error _ => (m, [])
    | .ok event =>
        let result := trigger file.name event
        if result.success then
          (⟨file.name :: m.processed, m.dir.unlink file.name⟩, [⟨file.name, event, result⟩])
        else (m, [⟨file.name, event, result⟩])

/-- The `for` loop over the listed files. -/
def Monitor.scanFiles : Monitor → List TriggerFile → Monitor × List Call
  | m, [] => (m, [])
  | m, file :: files =>
      let r := m.visit dt trigger file
      let s := r.1.scanFiles files
      (s.1, r.2 ++ s.2)

/-- The call a listed file gives when it is visited, if it reads as an event. -/
def callOf (file : TriggerFile) : Option Call :=
  match readEvent dt file with
  | .ok event => some ⟨file.name, event, trigger file.name event⟩
  | .error _ => none

/-- The names of the calls that succeeded. -/
def succeeded (calls : List Call) : List String :=
  (calls.filter (·.result.success)).map Call.name

/-- What a pass over `listing` does, said at once: the calls of the files not yet processed, then
the names of the successful ones processed and their files removed. -/
def Monitor.scanSpec (m : Monitor) (listing : List TriggerFile) : Monitor × List Call :=
  let calls := (listing.filter (·.name ∉ m.processed)).filterMap (callOf dt trigger)
  (⟨(succeeded calls).reverse ++ m.processed, m.dir.remove (succeeded calls)⟩, calls)

theorem name_of_callOf {file : TriggerFile} {c : Call} (h : callOf dt trigger file = some c) :
    c.name = file.name := by
  unfold callOf at h
  split at h <;> cases h; rfl

@[simp] theorem succeeded_cons (c : Call) (calls : List Call) :
    succeeded (c :: calls) = if c.result.success then c.name :: succeeded calls
      else succeeded calls := by
  unfold succeeded; split <;> simp_all

/-- A visit by the call the file gives. -/
theorem Monitor.visit_eq (m : Monitor) (file : TriggerFile) :
    m.visit dt trigger file =
      if file.name ∈ m.processed then (m, [])
      else match callOf dt trigger file with
        | none => (m, [])
        | some c =>
            (if c.result.success then ⟨c.name :: m.processed, m.dir.unlink c.name⟩ else m, [c]) := by
  unfold visit callOf
  split
  · rfl
  · cases readEvent dt file with
    | error => rfl
    | ok event => dsimp only; split <;> rfl

/-- **The loop does what `scanSpec` says**, on a listing of distinct names. -/
theorem Monitor.scanFiles_eq_scanSpec (m : Monitor) {listing : List TriggerFile}
    (h : (listing.map TriggerFile.name).Nodup) :
    m.scanFiles dt trigger listing = m.scanSpec dt trigger listing := by
  induction listing generalizing m with
  | nil => simp [scanFiles, scanSpec, succeeded]
  | cons f fs ih =>
    obtain ⟨hf, hfs⟩ := List.nodup_cons.mp (List.map_cons _ _ _ ▸ h)
    have hkeep : fs.filter (·.name ∉ f.name :: m.processed) = fs.filter (·.name ∉ m.processed) :=
      List.filter_congr fun x hx => by
        have : x.name ≠ f.name := fun hx' => hf (hx' ▸ List.mem_map_of_mem _ hx)
        simp [this]
    simp only [scanFiles, ih _ hfs, scanSpec, List.filter_cons, visit_eq]
    by_cases hp : f.name ∈ m.processed
    · simp [hp]
    · cases hc : callOf dt trigger f with
      | none => simp [hp, hc]
      | some c =>
        have hname := name_of_callOf dt trigger hc
        by_cases hs : c.result.success
        · simp only [hp, hc, hs, hname, if_true, if_false]
          rw [hkeep]
          simp [hp, hc, hs, hname, TriggerDir.unlink_remove]
        · simp [hp, hc, hs]

theorem mem_scanSpec {m : Monitor} {listing : List TriggerFile} {c : Call}
    (h : c ∈ (m.scanSpec dt trigger listing).2) :
    ∃ f ∈ listing, f.name ∉ m.processed ∧ callOf dt trigger f = some c := by
  obtain ⟨f, hf, hc⟩ := List.mem_filterMap.mp h
  obtain ⟨hf, hp⟩ := List.mem_filter.mp hf
  exact ⟨f, hf, of_decide_eq_true hp, hc⟩

/-- The calls of a pass over distinct names are for distinct names. -/
theorem pairwise_scanSpec (m : Monitor) {listing : List TriggerFile}
    (h : (listing.map TriggerFile.name).Nodup) :
    (m.scanSpec dt trigger listing).2.Pairwise (·.name ≠ ·.name) :=
  ((List.pairwise_map.mp h).sublist (List.filter_sublist _)).filterMap _ fun f f' hne c hc c' hc' => by
    rw [name_of_callOf dt trigger hc, name_of_callOf dt trigger hc']; exact hne

/-- The calls of a pass for one name: those of the listed files of that name. -/
theorem filter_name_scanSpec (m : Monitor) (listing : List TriggerFile) (n : String) :
    (m.scanSpec dt trigger listing).2.filter (·.name == n) =
      ((listing.filter (·.name == n)).filter (·.name ∉ m.processed)).filterMap
        (callOf dt trigger) := by
  simp only [Monitor.scanSpec, List.filter_filterMap, List.filterMap_filter, List.filter_filter]
  congr; funext f
  cases hc : callOf dt trigger f with
  | none => simp
  | some c =>
    have hname := name_of_callOf dt trigger hc
    by_cases hn : f.name = n
    · subst hn; by_cases hp : f.name ∈ m.processed <;> simp [hp, hname, Option.filter]
    · by_cases hp : f.name ∈ m.processed <;> simp [hp, hn, hname, Option.filter]

end Scan

theorem filter_name_eq_singleton {listing : List TriggerFile}
    (h : (listing.map TriggerFile.name).Nodup) {f : TriggerFile} (hf : f ∈ listing) :
    listing.filter (·.name == f.name) = [f] := by
  induction listing with
  | nil => cases hf
  | cons g gs ih =>
    obtain ⟨hg, hgs⟩ := List.nodup_cons.mp (List.map_cons _ _ _ ▸ h)
    rcases List.mem_cons.mp hf with rfl | hf
    · rw [List.filter_cons_of_pos (by simp), List.filter_eq_nil_iff.mpr]
      intro x hx hname
      exact hg (beq_iff_eq.mp hname ▸ List.mem_map_of_mem TriggerFile.name hx)
    · have hne : g.name ≠ f.name := fun he => hg (he ▸ List.mem_map_of_mem _ hf)
      rw [List.filter_cons_of_neg (by simpa using hne), ih hgs hf]

/-! ## Passes and runs -/

/-- The directory once the files written since the last listing have landed. -/
def Monitor.land (m : Monitor) (arrivals : List TriggerFile) : Monitor :=
  { m with dir := arrivals.foldl TriggerDir.write m.dir }

/-- `list(Path(trigger_dir).glob("backup-complete-*.json"))`. -/
def Monitor.listing (m : Monitor) : List TriggerFile :=
  m.dir.files.filter (isTriggerName ·.name)

/-- One pass of the `while True` loop. -/
def Monitor.scan (dt : Datetimes) (m : Monitor) (pass : Pass) : Monitor × List Call :=
  let m := m.land pass.arrivals
  m.scanFiles dt pass.trigger m.listing

/-- The loop over passes: the monitor after them, and the calls made, in order. -/
def Monitor.run (dt : Datetimes) : Monitor → List Pass → Monitor × List Call
  | m, [] => (m, [])
  | m, pass :: passes =>
      let r := m.scan dt pass
      let s := r.1.run dt passes
      (s.1, r.2 ++ s.2)

section Run

variable {dt : Datetimes}

theorem Monitor.nodup_listing (m : Monitor) : (m.listing.map TriggerFile.name).Nodup :=
  m.dir.nodup_filter _

theorem Monitor.scan_eq (m : Monitor) (pass : Pass) :
    m.scan dt pass = (m.land pass.arrivals).scanSpec dt pass.trigger (m.land pass.arrivals).listing :=
  Monitor.scanFiles_eq_scanSpec _ _ _ (Monitor.nodup_listing _)

theorem succeeded_append (calls calls' : List Call) :
    succeeded (calls ++ calls') = succeeded calls ++ succeeded calls' := by
  simp [succeeded]

theorem mem_succeeded {calls : List Call} {n : String} :
    n ∈ succeeded calls ↔ ∃ c ∈ calls, c.name = n ∧ c.result.success = true := by
  simp only [succeeded, List.mem_map, List.mem_filter]
  constructor
  · rintro ⟨c, ⟨hc, hs⟩, rfl⟩; exact ⟨c, hc, rfl, hs⟩
  · rintro ⟨c, hc, rfl, hs⟩; exact ⟨c, ⟨hc, hs⟩, rfl⟩

/-- The processed names grow by the names of the successful calls, one pass after another. -/
theorem Monitor.run_processed (m : Monitor) (passes : List Pass) :
    (m.run dt passes).1.processed = (succeeded (m.run dt passes).2).reverse ++ m.processed := by
  induction passes generalizing m with
  | nil => rfl
  | cons pass passes ih =>
    simp only [run, ih, succeeded_append, List.reverse_append, List.append_assoc, scan_eq]
    rfl

/-- A call of a run is for a name that was not processed when the run began. -/
theorem Monitor.not_mem_processed_of_mem_run {m : Monitor} {passes : List Pass} {c : Call}
    (h : c ∈ (m.run dt passes).2) : c.name ∉ m.processed := by
  induction passes generalizing m with
  | nil => cases h
  | cons pass passes ih =>
    rcases List.mem_append.mp h with h | h
    · rw [scan_eq] at h
      obtain ⟨f, -, hp, hc⟩ := mem_scanSpec dt pass.trigger h
      rw [name_of_callOf dt pass.trigger hc]
      exact hp
    · have := ih h
      rw [scan_eq] at this
      exact fun hm => this (List.mem_append_right _ hm)

/-- **No trigger is handled twice.**  In every run, from every state, once a call of
`handle_backup_completion` for a file's name succeeded, no later call is for that name. -/
theorem Monitor.run_pairwise (m : Monitor) (passes : List Pass) :
    (m.run dt passes).2.Pairwise fun c c' => c.result.success = true → c.name ≠ c'.name := by
  induction passes generalizing m with
  | nil => exact List.Pairwise.nil
  | cons pass passes ih =>
    refine List.pairwise_append.mpr ⟨?_, ih _, fun c hc c' hc' hs => ?_⟩
    · rw [scan_eq]
      refine List.Pairwise.imp ?_
        (pairwise_scanSpec dt pass.trigger (m.land pass.arrivals) (m.land pass.arrivals).nodup_listing)
      exact fun h _ => h
    · have hnot := not_mem_processed_of_mem_run hc'
      rw [scan_eq] at hc hnot
      exact fun he => hnot (List.mem_append_left _
        (List.mem_reverse.mpr (mem_succeeded.mpr ⟨c, hc, he, hs⟩)))

/-! ## Trigger files -/

/-- The trigger file of `sampleEvent`, as `json.dump(event.to_dict(), f)` writes it. -/
def sampleFile : TriggerFile :=
  ⟨"backup-complete-prod-1704067200.json", sampleEvent.toDict⟩

/-- A trigger directory holding only that file. -/
def sampleDir : TriggerDir :=
  ⟨[sampleFile], by decide⟩

/-- What `handle_backup_completion` answers when the generation raised. -/
def failedResult : GitOpsTriggerResult :=
  { success := false, timestamp := ⟨"2024-01-01T00:05:00"⟩, duration := 1,
    method := "direct_invocation", error := "GitOps generation failed" }

/-- What it answers when the generation ran. -/
def doneResult : GitOpsTriggerResult :=
  { success := true, timestamp := ⟨"2024-01-01T00:05:00"⟩, duration := 2,
    method := "direct_invocation", output := "GitOps generation completed" }

/-- A pass in which nothing arrives and the generation fails. -/
def failingPass : Pass :=
  ⟨[], fun _ _ => failedResult⟩

/-- A pass in which nothing arrives and the generation runs. -/
def succeedingPass : Pass :=
  ⟨[], fun _ _ => doneResult⟩

/-- **A processed name is shut out for good.**  In every run, from every state, a name already in
`processed_files` is never handled again, and a file of that name stays in the directory, also one
written again later. -/
theorem Monitor.run_processed_stays {m : Monitor} {n : String} (hn : n ∈ m.processed)
    (passes : List Pass) :
    (∀ c ∈ (m.run dt passes).2, c.name ≠ n) ∧
      (n ∈ m.dir.names → n ∈ (m.run dt passes).1.dir.names) := by
  refine ⟨fun c hc he => not_mem_processed_of_mem_run hc (he ▸ hn), fun hd => ?_⟩
  induction passes generalizing m with
  | nil => exact hd
  | cons pass passes ih =>
    have hscan := @Monitor.scan_eq dt m pass
    refine ih (by rw [hscan]; exact List.mem_append_right _ hn) ?_
    rw [hscan]
    refine TriggerDir.mem_names_remove.mpr ⟨TriggerDir.mem_names_writeAll _ hd, fun hs => ?_⟩
    obtain ⟨c, hc, rfl, -⟩ := mem_succeeded.mp hs
    obtain ⟨f, -, hp, hf⟩ := mem_scanSpec dt pass.trigger hc
    exact hp (name_of_callOf dt pass.trigger hf ▸ hn)

theorem run_processed_stays_sampleFile :
    sampleFile.name ∈ (⟨[sampleFile.name], sampleDir⟩ : Monitor).processed ∧
      (∀ c ∈ ((⟨[sampleFile.name], sampleDir⟩ : Monitor).run sampleDatetimes [succeedingPass]).2,
          c.name ≠ sampleFile.name) ∧
        (sampleFile.name ∈ sampleDir.names → sampleFile.name ∈
          ((⟨[sampleFile.name], sampleDir⟩ : Monitor).run sampleDatetimes [succeedingPass]).1.dir.names) :=
  ⟨List.mem_singleton_self _, Monitor.run_processed_stays (List.mem_singleton_self _) [succeedingPass]⟩

/-- **No trigger file is lost.**  In every run, from every state, a file leaves the directory only
once a call of `handle_backup_completion` for its name succeeded. -/
theorem Monitor.run_removed {m : Monitor} {n : String} {passes : List Pass} (hd : n ∈ m.dir.names)
    (hgone : n ∉ (m.run dt passes).1.dir.names) :
    ∃ c ∈ (m.run dt passes).2, c.name = n ∧ c.result.success = true := by
  induction passes generalizing m with
  | nil => exact absurd hd hgone
  | cons pass passes ih =>
    by_cases hkept : n ∈ (m.scan dt pass).1.dir.names
    · obtain ⟨c, hc, h⟩ := ih hkept hgone
      exact ⟨c, List.mem_append_right _ hc, h⟩
    · rw [scan_eq] at hkept
      have hs : n ∈ succeeded (m.scan dt pass).2 := by
        rw [scan_eq]
        by_contra hs
        exact hkept (TriggerDir.mem_names_remove.mpr ⟨TriggerDir.mem_names_writeAll _ hd, hs⟩)
      obtain ⟨c, hc, h⟩ := mem_succeeded.mp hs
      exact ⟨c, List.mem_append_left _ hc, h⟩

theorem run_removed_sampleFile :
    (sampleFile.name ∈ (Monitor.start sampleDir).dir.names ∧
        sampleFile.name ∉ ((Monitor.start sampleDir).run sampleDatetimes [succeedingPass]).1.dir.names) ∧
      ∃ c ∈ ((Monitor.start sampleDir).run sampleDatetimes [succeedingPass]).2,
        c.name = sampleFile.name ∧ c.result.success = true :=
  have hd : sampleFile.name ∈ (Monitor.start sampleDir).dir.names := List.mem_singleton_self _
  have hgone : sampleFile.name ∉
      ((Monitor.start sampleDir).run sampleDatetimes [succeedingPass]).1.dir.names := by
    rw [show ((Monitor.start sampleDir).run sampleDatetimes [succeedingPass]).1.dir.names = [] from rfl]
    exact List.not_mem_nil _
  ⟨⟨hd, hgone⟩, Monitor.run_removed hd hgone⟩

/-- **A failing trigger is retried at every pass.**  Take a listed trigger file, not yet processed,
that reads as an event and that no other process rewrites.  When every call for it fails, every
pass calls `handle_backup_completion` for its name exactly once, with its event, and the file stays
in the directory, unprocessed: the monitor never gives up on it. -/
theorem Monitor.run_retries {m : Monitor} {f : TriggerFile} {event : BackupCompletionEvent}
    {passes : List Pass} (hf : f ∈ m.dir.files) (hname : isTriggerName f.name = true)
    (hp : f.name ∉ m.processed) (hread : readEvent dt f = .ok event)
    (hpasses : ∀ pass ∈ passes, (∀ a ∈ pass.arrivals, a.name ≠ f.name) ∧
      (pass.trigger f.name event).success = false) :
    (m.run dt passes).2.filter (·.name == f.name) =
        passes.map (fun pass => ⟨f.name, event, pass.trigger f.name event⟩) ∧
      f ∈ (m.run dt passes).1.dir.files ∧ f.name ∉ (m.run dt passes).1.processed := by
  induction passes generalizing m with
  | nil => exact ⟨rfl, hf, hp⟩
  | cons pass passes ih =>
    obtain ⟨harr, hfail⟩ := hpasses pass (List.mem_cons_self _ _)
    have hf' : f ∈ (m.land pass.arrivals).dir.files := TriggerDir.mem_files_writeAll hf harr
    have hcalls : (m.scan dt pass).2.filter (·.name == f.name) =
        [⟨f.name, event, pass.trigger f.name event⟩] := by
      rw [scan_eq, filter_name_scanSpec, filter_name_eq_singleton (Monitor.nodup_listing _)
        (List.mem_filter.mpr ⟨hf', hname⟩)]
      simp [Monitor.land, hp, callOf, hread]
    have hns : f.name ∉ succeeded (m.scan dt pass).2 := fun hs => by
      obtain ⟨c, hc, hcn, hcs⟩ := mem_succeeded.mp hs
      have hc' : c ∈ (m.scan dt pass).2.filter (·.name == f.name) :=
        List.mem_filter.mpr ⟨hc, by simp [hcn]⟩
      rw [hcalls, List.mem_singleton] at hc'
      rw [hc', hfail] at hcs
      cases hcs
    rw [scan_eq] at hns
    have hf1 : f ∈ (m.scan dt pass).1.dir.files := by
      rw [scan_eq]
      exact List.mem_filter.mpr ⟨hf', decide_eq_true hns⟩
    have hp1 : f.name ∉ (m.scan dt pass).1.processed := by
      rw [scan_eq]
      exact fun h => (List.mem_append.mp h).elim (fun h => hns (List.mem_reverse.mp h)) hp
    obtain ⟨h1, h2, h3⟩ := ih hf1 hp1 fun p hp => hpasses p (List.mem_cons_of_mem _ hp)
    refine ⟨?_, h2, h3⟩
    simp only [run, List.filter_append, hcalls, h1, List.map_cons, List.singleton_append]

theorem run_retries_sampleFile :
    (sampleFile ∈ (Monitor.start sampleDir).dir.files ∧
      isTriggerName sampleFile.name = true ∧
      sampleFile.name ∉ (Monitor.start sampleDir).processed ∧
      readEvent sampleDatetimes sampleFile = .ok sampleEvent ∧
      ∀ pass ∈ [failingPass, failingPass], (∀ a ∈ pass.arrivals, a.name ≠ sampleFile.name) ∧
        (pass.trigger sampleFile.name sampleEvent).success = false) ∧
    ((Monitor.start sampleDir).run sampleDatetimes [failingPass, failingPass]).2.filter
        (·.name == sampleFile.name) =
        [failingPass, failingPass].map
          (fun pass => ⟨sampleFile.name, sampleEvent, pass.trigger sampleFile.name sampleEvent⟩) ∧
      sampleFile ∈ ((Monitor.start sampleDir).run sampleDatetimes
        [failingPass, failingPass]).1.dir.files ∧
      sampleFile.name ∉ ((Monitor.start sampleDir).run sampleDatetimes
        [failingPass, failingPass]).1.processed :=
  have hfile : sampleFile ∈ (Monitor.start sampleDir).dir.files :=
    List.mem_singleton_self _
  have hname : isTriggerName sampleFile.name = true := by decide
  have hp : sampleFile.name ∉ (Monitor.start sampleDir).processed :=
    List.not_mem_nil _
  have hread : readEvent sampleDatetimes sampleFile = .ok sampleEvent := rfl
  have hpasses : ∀ pass ∈ [failingPass, failingPass],
      (∀ a ∈ pass.arrivals, a.name ≠ sampleFile.name) ∧
        (pass.trigger sampleFile.name sampleEvent).success = false := by
    simp [failingPass, failedResult]
  ⟨⟨hfile, hname, hp, hread, hpasses⟩, Monitor.run_retries hfile hname hp hread hpasses⟩

end Run

section Order

variable (dt : Datetimes) (trigger : String → BackupCompletionEvent → GitOpsTriggerResult)

/-- **The listing order does not matter.**  Two listings of the same files with distinct names
give the same directory, the same processed names and the same calls, up to their order. -/
theorem Monitor.scanFiles_perm (m : Monitor) {listing listing' : List TriggerFile}
    (hperm : listing.Perm listing') (h : (listing.map TriggerFile.name).Nodup) :
    (m.scanFiles dt trigger listing).2.Perm (m.scanFiles dt trigger listing').2 ∧
      (m.scanFiles dt trigger listing).1.processed.Perm
        (m.scanFiles dt trigger listing').1.processed ∧
      (m.scanFiles dt trigger listing).1.dir = (m.scanFiles dt trigger listing').1.dir := by
  have hcalls := (hperm.filter (·.name ∉ m.processed)).filterMap (callOf dt trigger)
  have hsucc : (succeeded ((listing.filter (·.name ∉ m.processed)).filterMap
      (callOf dt trigger))).Perm (succeeded ((listing'.filter (·.name ∉ m.processed)).filterMap
      (callOf dt trigger))) := (hcalls.filter _).map _
  rw [scanFiles_eq_scanSpec _ _ _ h, scanFiles_eq_scanSpec _ _ _ ((hperm.map _).nodup_iff.mp h)]
  refine ⟨hcalls, ((List.reverse_perm _).trans (hsucc.trans (List.reverse_perm _).symm)).append_right _,
    TriggerDir.ext ?_⟩
  exact List.filter_congr fun f _ => by simp only [hsucc.mem_iff]

/-- A trigger file whose content is cut short. -/
def truncatedFile : TriggerFile :=
  ⟨"backup-complete-prod-1704070800.json", .error "Expecting value: line 1 column 1 (char 0)"⟩

theorem scanFiles_perm_truncatedFile :
    ([sampleFile, truncatedFile].Perm [truncatedFile, sampleFile] ∧
        ([sampleFile, truncatedFile].map TriggerFile.name).Nodup) ∧
      ((Monitor.start sampleDir).scanFiles sampleDatetimes succeedingPass.trigger
          [sampleFile, truncatedFile]).2.Perm
        ((Monitor.start sampleDir).scanFiles sampleDatetimes succeedingPass.trigger
          [truncatedFile, sampleFile]).2 ∧
      ((Monitor.start sampleDir).scanFiles sampleDatetimes succeedingPass.trigger
          [sampleFile, truncatedFile]).1.processed.Perm
        ((Monitor.start sampleDir).scanFiles sampleDatetimes succeedingPass.trigger
          [truncatedFile, sampleFile]).1.processed ∧
      ((Monitor.start sampleDir).scanFiles sampleDatetimes succeedingPass.trigger
          [sampleFile, truncatedFile]).1.dir =
        ((Monitor.start sampleDir).scanFiles sampleDatetimes succeedingPass.trigger
          [truncatedFile, sampleFile]).1.dir :=
  have hperm : [sampleFile, truncatedFile].Perm [truncatedFile, sampleFile] := List.Perm.swap _ _ _
  have h : ([sampleFile, truncatedFile].map TriggerFile.name).Nodup := by decide
  ⟨⟨hperm, h⟩, Monitor.scanFiles_perm sampleDatetimes succeedingPass.trigger _ hperm h⟩

end Order

end Triggers
end Tkkube
