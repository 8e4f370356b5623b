import Tkkube.Restore.Steps

/-!
# The `active_restores` map along a run

`start_restore` enters a new progress object under the request's id, `cancel_restore` removes an
entry and nothing else, and a task that ends removes the entry of its own id.  Only the first of
these ever adds an entry, so along every run:

* an entry names the object of the latest restore started under its id, whose task still runs
  (`ActiveSound`);
* after `cancel_restore(id)` the id has no status until a later `start_restore(id)` returns;
* a `start_restore` whose validation raises changes nothing.

Exclusive use of an object, and a task's `finally` clause removing only the entry its own start
made, need more: the entry is looked up by id, both when a task takes its first step
(`progress = self.active_restores[request.restore_id]`) and when it ends.  They hold on runs that
start an id again only once every earlier task under it has ended (`StartsAfterEnd`), and
`cancelRestartSchedule` shows a run of the kind the spec allows that breaks both.  The schedule
`cancelBeforeFirstStep` makes the first step raise a `KeyError` outside the `try`, so that the
task records no result.
-/

namespace Tkkube
namespace Restore

/-- A task that has not ended: spawned, or suspended at a call. -/
def TaskState.running : TaskState → Bool
  | .spawned | .suspended .. => true
  | .finished | .crashed _ => false

/-- The event is a `start_restore` under `id` whose validation returned. -/
def Event.startsUnder (id : String) : Event → Prop
  | .startRestore request none => request.restoreId = id
  | _ => False

namespace Orchestrator

variable {s : Orchestrator}

/-! ## How an entry can change -/

theorem settle_activeRestores (k ref : Nat) (res : Except String Next) (p : RestoreProgress)
    (hr : List (String × Value)) (id : String) :
    (s.settle k ref res p hr).activeRestores id = s.activeRestores id ∨
      (id = (s.restores k).request.restoreId ∧ (s.settle k ref res p hr).activeRestores id = none) := by
  by_cases hid : id = (s.restores k).request.restoreId
  · rcases res with _ | (_ | _) <;> simp [settle, hid]
  · exact .inl (settle_activeRestores_of_ne hid)

/-- A step of task `k` changes at most one entry, that of its own id, and only by removing it at
the end of a running task. -/
theorem resume_activeRestores (k : Nat) (reply : Reply) (id : String) :
    (s.resume k reply).activeRestores id = s.activeRestores id ∨
      (k < s.started ∧ (s.restores k).task.running = true ∧ id = (s.restores k).request.restoreId ∧
        (s.resume k reply).activeRestores id = none) := by
  rcases resume_cases (s := s) k reply with h | ⟨-, -, -, h⟩ | ⟨ref, hr, m, hk, hcase, h⟩ <;> rw [h]
  · exact .inl rfl
  · exact .inl rfl
  · have hrun : (s.restores k).task.running = true := by
      rcases hcase with ⟨h', -⟩ | ⟨pc, h', -⟩ <;> rw [h'] <;> rfl
    rw [runSegment_eq]
    rcases settle_activeRestores (s := s.writeBack k ref _) k ref _ _ _ id with h' | ⟨hid, h'⟩
    · exact .inl (by simpa using h')
    · exact .inr ⟨hk, hrun, by simpa using hid, h'⟩

theorem resume_task_of_ne {k i : Nat} (reply : Reply) (h : i ≠ k) :
    ((s.resume k reply).restores i).task = (s.restores i).task := by
  rcases resume_cases (s := s) k reply with e | ⟨-, -, -, e⟩ | ⟨_, _, _, -, -, e⟩ <;> rw [e]
  · simp [h]
  · exact runSegment_task_of_ne h

/-- A running task that ends in a step leaves no entry under its id. -/
theorem resume_ended {k : Nat} (reply : Reply) (hrun : (s.restores k).task.running = true)
    (hend : ((s.resume k reply).restores k).task.running = false) :
    (s.resume k reply).activeRestores (s.restores k).request.restoreId = none := by
  rcases resume_cases (s := s) k reply with h | ⟨-, -, hnone, h⟩ | ⟨ref, hr, m, -, -, h⟩ <;>
    rw [h] at hend ⊢
  · exact absurd hrun (by simp [hend])
  · exact hnone
  · rw [runSegment_eq] at hend ⊢
    rcases settle_cases (s := s.writeBack k ref _) k ref _ _ _ with ⟨_, _, e⟩ | ⟨_, e⟩ | ⟨_, _, e⟩ <;>
      rw [e] at hend ⊢
    · simp [TaskState.running] at hend
    all_goals simp [Function.update_apply]

/-! ## What every run keeps -/

/-- What an entry of `active_restores` names: the object of the latest restore started under its
id, whose task has not ended. -/
def ActiveSound (s : Orchestrator) : Prop :=
  ∀ {id k}, s.activeRestores id = some k →
    k < s.started ∧ (s.restores k).request.restoreId = id ∧
      (∀ j, k < j → j < s.started → (s.restores j).request.restoreId ≠ id) ∧
      (s.restores k).task.running = true

theorem ActiveSound.spawn (hs : ActiveSound s) (request : RestoreRequest) :
    ActiveSound (s.spawn request) := by
  intro id k h
  rw [spawn_activeRestores, Function.update_apply] at h
  split at h
  · cases h
    rename_i hid
    exact ⟨Nat.lt_succ_self _, by simp [hid], fun j hj hj' => absurd hj' (by simp; omega), by simp; rfl⟩
  · rename_i hid
    obtain ⟨hk, hreq, hlast, hrun⟩ := hs h
    refine ⟨Nat.lt_succ_of_lt hk, by simpa [Nat.ne_of_lt hk] using hreq, fun j hj hj' => ?_,
      by simpa [Nat.ne_of_lt hk] using hrun⟩
    simp only [spawn_request]
    split
    · exact Ne.symm hid
    · exact hlast j hj (by simp at hj'; omega)

theorem ActiveSound.resume (hs : ActiveSound s) (k : Nat) (reply : Reply) :
    ActiveSound (s.resume k reply) := by
  intro id m h
  rcases resume_activeRestores (s := s) k reply id with hid | ⟨-, -, -, hnone⟩
  swap; · rw [hnone] at h; cases h
  obtain ⟨hm, hreq, hlast, hrun⟩ := hs (hid ▸ h)
  refine ⟨by simpa using hm, by simpa using hreq, fun j hj hj' => by simpa using hlast j hj (by simpa using hj'), ?_⟩
  by_cases hmk : m = k
  · subst hmk
    by_contra hend
    have := resume_ended reply hrun (by simpa using hend)
    rw [hreq, h] at this; cases this
  · rwa [resume_task_of_ne reply hmk]

theorem ActiveSound.step (hs : ActiveSound s) (e : Event) : ActiveSound (s.step e) := by
  cases e with
  | startRestore request validation =>
    cases validation
    · exact hs.spawn request
    · exact hs
  | cancelRestore restoreId =>
    intro id k h
    rw [step_cancelRestore] at h ⊢
    simp only [Function.update_apply] at h
    split at h
    · cases h
    · exact hs h
  | getRestoreStatus => exact hs
  | resume k reply => exact hs.resume k reply
  | tick => exact fun h => hs h

/-- No `start_restore` under `id` returns during the run. -/
theorem run_activeRestores_none {id : String} :
    ∀ {s : Orchestrator} {es : List Event}, s.activeRestores id = none →
      (∀ e ∈ es, ¬ e.startsUnder id) → (s.run es).activeRestores id = none
  | _, [], h, _ => h
  | s, e :: es, h, hes => by
      refine run_activeRestores_none (s := s.step e) ?_ fun e' he' => hes e' (List.mem_cons_of_mem _ he')
      have he := hes e (List.mem_cons_self _ _)
      cases e with
      | startRestore request validation =>
        cases validation
        · simp only [Event.startsUnder] at he
          simp [Function.update_apply, Ne.symm he, h]
        · exact h
      | cancelRestore restoreId => simp [step_cancelRestore, Function.update_apply, h]
      | resume k reply =>
        rcases resume_activeRestores (s := s) k reply id with h' | ⟨-, -, -, h'⟩ <;> simp [h', h]
      | _ => exact h

/-! ## Runs that start an id again only after its tasks ended -/

/-- `start_restore(request)` returns only once every earlier task under the same id has ended. -/
def StartsAfterEnd (s : Orchestrator) : Event → Prop
  | .startRestore request none => ∀ j < s.started,
      (s.restores j).request.restoreId = request.restoreId → (s.restores j).task.running = false
  | _ => True

/-- No two running tasks share an id, and a suspended task holds its own object. -/
structure Exclusive (s : Orchestrator) : Prop where
  unique : ∀ {i j}, i < s.started → j < s.started → (s.restores i).task.running = true →
    (s.restores j).task.running = true →
    (s.restores i).request.restoreId = (s.restores j).request.restoreId → i = j
  own : ∀ {j ref pc hr}, j < s.started → (s.restores j).task = .suspended ref pc hr → ref = j

theorem resume_running {k i : Nat} (reply : Reply)
    (h : ((s.resume k reply).restores i).task.running = true) : (s.restores i).task.running = true := by
  by_cases hik : i = k
  swap; · rwa [resume_task_of_ne reply hik] at h
  subst hik
  rcases resume_cases (s := s) i reply with e | ⟨-, -, -, e⟩ | ⟨_, _, _, -, hcase, -⟩
  · rwa [e] at h
  · rw [e] at h; simp [TaskState.running] at h
  · rcases hcase with ⟨h', -⟩ | ⟨_, h', -⟩ <;> rw [h'] <;> rfl

/-- The object a task suspends with is the one it ran its segment on. -/
theorem resume_suspended_ref {k ref' : Nat} {pc' : Pc} {hr' : List (String × Value)} (reply : Reply)
    (h : ((s.resume k reply).restores k).task = .suspended ref' pc' hr') :
    (∃ pc hr, (s.restores k).task = .suspended ref' pc hr) ∨
      ((s.restores k).task = .spawned ∧ s.activeRestores (s.restores k).request.restoreId = some ref') := by
  rcases resume_cases (s := s) k reply with e | ⟨-, -, -, e⟩ | ⟨ref, hr, m, -, hcase, e⟩ <;> rw [e] at h
  · exact .inl ⟨pc', hr', h⟩
  · simp at h
  · rw [runSegment_eq] at h
    rcases settle_cases (s := s.writeBack k ref _) k ref _ _ _ with ⟨_, _, e'⟩ | ⟨_, e'⟩ | ⟨_, _, e'⟩ <;>
      rw [e'] at h <;> simp at h
    obtain ⟨rfl, -, -⟩ := h
    rcases hcase with ⟨h1, h2, -⟩ | ⟨pc, h1, -⟩
    · exact .inr ⟨h1, h2⟩
    · exact .inl ⟨pc, hr, h1⟩

theorem Exclusive.spawn (hx : Exclusive s) (request : RestoreRequest)
    (he : StartsAfterEnd s (.startRestore request none)) : Exclusive (s.spawn request) where
  unique {i j} hi hj hri hrj hid := by
    simp only [spawn_started] at hi hj
    simp only [spawn_task, spawn_request] at hri hrj hid
    by_cases hi' : i = s.started <;> by_cases hj' : j = s.started
    · rw [hi', hj']
    · simp only [hi', hj', if_true, if_false] at hri hrj hid
      exact absurd (he j (by omega) hid.symm) (by simp [hrj])
    · simp only [hi', hj', if_true, if_false] at hri hrj hid
      exact absurd (he i (by omega) hid) (by simp [hri])
    · simp only [hi', hj', if_false] at hri hrj hid
      exact hx.unique (by omega) (by omega) hri hrj hid
  own {j ref pc hr} hj ht := by
    simp only [spawn_task] at ht
    split at ht
    · cases ht
    · exact hx.own (by simp at hj; omega) ht

theorem Exclusive.resume (ha : ActiveSound s) (hx : Exclusive s) (k : Nat) (reply : Reply) :
    Exclusive (s.resume k reply) where
  unique hi hj hri hrj hid := hx.unique (by simpa using hi) (by simpa using hj)
    (resume_running reply hri) (resume_running reply hrj) (by simpa using hid)
  own {j ref pc hr} hj ht := by
    by_cases hjk : j = k
    · subst hjk
      rcases resume_suspended_ref reply ht with ⟨_, _, h0⟩ | ⟨h0, hact⟩
      · exact hx.own (by simpa using hj) h0
      · obtain ⟨hm, hid, -, hrun⟩ := ha hact
        exact hx.unique hm (by simpa using hj) hrun (by rw [h0]; rfl) hid
    · rw [resume_task_of_ne reply hjk] at ht
      exact hx.own (by simpa using hj) ht

theorem Exclusive.step (ha : ActiveSound s) (hx : Exclusive s) (e : Event)
    (he : StartsAfterEnd s e) : Exclusive (s.step e) := by
  cases e with
  | startRestore request validation =>
    cases validation
    · exact hx.spawn request he
    · exact hx
  | cancelRestore restoreId => rw [step_cancelRestore]; exact ⟨hx.unique, hx.own⟩
  | getRestoreStatus => exact hx
  | resume k reply => exact hx.resume ha k reply
  | tick => exact ⟨hx.unique, hx.own⟩

/-- Nobody but the task of restore `k` holds, or takes at its first step, the object an entry
names. -/
def ExclusiveUse (s : Orchestrator) : Prop :=
  ∀ {id k}, s.activeRestores id = some k → ∀ j < s.started, j ≠ k →
    (∀ ref pc hr, (s.restores j).task = .suspended ref pc hr → ref ≠ k) ∧
      ((s.restores j).task = .spawned → (s.restores j).request.restoreId ≠ id)

theorem Exclusive.exclusiveUse (ha : ActiveSound s) (hx : Exclusive s) : ExclusiveUse s := by
  intro id k h j hj hjk
  obtain ⟨hk, hid, -, hrun⟩ := ha h
  refine ⟨fun ref pc hr ht => hx.own hj ht ▸ hjk, fun ht hidj => hjk ?_⟩
  exact hx.unique hj hk (by rw [ht]; rfl) hrun (hidj.trans hid.symm)

/-- A step of task `k` changes an entry only by removing the entry of `k`'s own id, which names
`k`'s own object. -/
def RemovesOwnEntry (s : Orchestrator) : Event → Prop
  | .resume k reply => ∀ id, (s.resume k reply).activeRestores id ≠ s.activeRestores id →
      (s.restores k).request.restoreId = id ∧ s.activeRestores id = some k ∧
        (s.resume k reply).activeRestores id = none
  | _ => True

theorem Exclusive.removesOwnEntry (ha : ActiveSound s) (hx : Exclusive s) (e : Event) :
    RemovesOwnEntry s e := by
  cases e with
  | resume k reply =>
    intro id hne
    rcases resume_activeRestores (s := s) k reply id with h | ⟨hk, hrun, rfl, hnone⟩
    · exact absurd h hne
    · refine ⟨rfl, ?_, hnone⟩
      cases hm : s.activeRestores (s.restores k).request.restoreId with
      | none => rw [hnone, hm] at hne; exact absurd rfl hne
      | some m =>
        obtain ⟨hm', hid, -, hrunm⟩ := ha hm
        rw [hx.unique hm' hk hrunm hrun hid]
  | _ => trivial

/-- **The `active_restores` map.**  Along every run from a fresh orchestrator: (a) every entry
names the object of the latest restore started under its id, whose task still runs; (c) after a
`cancel_restore(id)`, `get_restore_status(id)` is absent until a `start_restore(id)` returns; (d) a
`start_restore` whose validation raises re-raises and changes nothing.  On runs that start an id
again only once its earlier tasks ended, moreover, no other task holds or takes the object an entry
names, and a task's step removes only the entry of its own object. -/
theorem activeRestores_bookkeeping (settings : GitopsSettings) (workDir : String)
    (es : List Event) :
    (∀ t ∈ (Orchestrator.init settings workDir).trace es, ActiveSound t) ∧
      (∀ pre restoreId mid, es = pre ++ .cancelRestore restoreId :: mid →
        (∀ e ∈ mid, ¬ e.startsUnder restoreId) →
        ((Orchestrator.init settings workDir).run es).getRestoreStatus restoreId = none) ∧
      (∀ t ∈ (Orchestrator.init settings workDir).trace es, ∀ request msg,
        t.startRestore request (some msg) = .error msg ∧
          t.step (.startRestore request (some msg)) = t) ∧
      ((∀ q ∈ (Orchestrator.init settings workDir).transitions es, StartsAfterEnd q.1 q.2) →
        (∀ t ∈ (Orchestrator.init settings workDir).trace es, ExclusiveUse t) ∧
          ∀ q ∈ (Orchestrator.init settings workDir).transitions es, RemovesOwnEntry q.1 q.2) := by
  have hsound : ∀ t ∈ (Orchestrator.init settings workDir).trace es, Inv t ∧ ActiveSound t :=
    (trace_chain (P := fun _ _ => True) (R := fun _ _ => True)
      (I := fun t => Inv t ∧ ActiveSound t) (fun _ e h _ => ⟨⟨h.1.step e, ActiveSound.step h.2 e⟩, trivial⟩)
      ⟨Inv.init settings workDir, fun h => by cases h⟩ (fun _ _ => trivial)).2
  refine ⟨fun t ht => (hsound t ht).2, fun pre restoreId mid hes hmid => ?_,
    fun _ _ _ _ => ⟨rfl, rfl⟩, fun hP => ?_⟩
  · rw [hes, run_append, run_cons, getRestoreStatus,
      run_activeRestores_none (by simp [step_cancelRestore]) hmid]
    rfl
  · have hx := (trace_chain (P := StartsAfterEnd) (R := fun _ _ => True)
      (I := fun t => ActiveSound t ∧ Exclusive t)
      (fun _ e h he => ⟨⟨ActiveSound.step h.1 e, h.2.step h.1 e he⟩, trivial⟩)
      ⟨(fun h => by cases h), fun hi => absurd hi (Nat.not_lt_zero _),
        fun hj => absurd hj (Nat.not_lt_zero _)⟩ hP).2
    exact ⟨fun t ht => (hx t ht).2.exclusiveUse (hx t ht).1, fun q hq =>
      (hx q.1 (mem_trace_of_mem_transitions hq)).2.removesOwnEntry
        (hx q.1 (mem_trace_of_mem_transitions hq)).1 q.2⟩

/-! ## Two schedules -/

/-- `start_restore(request)` is never called while its id is a key of `active_restores`: the
condition the spec puts on runs. -/
def StartsFresh (s : Orchestrator) : Event → Prop
  | .startRestore request _ => s.activeRestores request.restoreId = none
  | _ => True

instance : ∀ s e, Decidable (StartsFresh s e)
  | s, .startRestore request _ => inferInstanceAs (Decidable (s.activeRestores request.restoreId = none))
  | _, .cancelRestore _ | _, .getRestoreStatus _ | _, .resume .. | _, .tick => isTrue trivial

/-- A request under the id `"r"`. -/
def requestR : RestoreRequest :=
  ⟨"r", "b", "src", "dst", .fullCluster, .namespaceRecovery, none, none, false⟩

/-- Restore `"r"` is started, cancelled and started again before the first task took its first
step.  The first task then takes the second restore's object, fails in Planning, and its `finally`
clause removes the entry of the second restore, whose task has not run. -/
def cancelRestartSchedule : List Event :=
  [.startRestore requestR none, .cancelRestore "r", .startRestore requestR none, .resume 0 .done,
    .resume 0 (.metadata none)]

theorem cancelRestart_breaks_ownership :
    (∀ q ∈ (Orchestrator.init {} "/w").transitions cancelRestartSchedule, StartsFresh q.1 q.2) ∧
      (∃ t ∈ (Orchestrator.init {} "/w").trace cancelRestartSchedule, ¬ ExclusiveUse t) ∧
      ∃ q ∈ (Orchestrator.init {} "/w").transitions cancelRestartSchedule,
        ¬ RemovesOwnEntry q.1 q.2 := by
  refine ⟨by decide, ⟨_, run_take_mem_trace _ _ 4, fun h => ?_⟩,
    ⟨_, run_take_mem_transitions _ _ 4 _ rfl, fun h => ?_⟩⟩
  · exact (@h "r" 1 (by decide) 0 (by decide) (by decide)).1 1 .loadBackupMetadata [] rfl rfl
  · exact absurd (h "r" (by decide)).2.1 (by decide)

/-- Restore `"r"` is cancelled before its task took its first step. -/
def cancelBeforeFirstStep : List Event :=
  [.startRestore requestR none, .cancelRestore "r", .resume 0 .done]

theorem resume_restoreHistory_of_not_running {k : Nat} (reply : Reply)
    (h : (s.restores k).task.running = false) : (s.resume k reply).restoreHistory = s.restoreHistory := by
  rcases resume_cases (s := s) k reply with e | ⟨-, ht, -, -⟩ | ⟨_, _, _, -, hcase, -⟩
  · rw [e]
  · rw [ht] at h; cases h
  · rcases hcase with ⟨ht, -⟩ | ⟨_, ht, -⟩ <;> rw [ht] at h <;> cases h

/-- No task under `id` runs and no result under `id` is recorded. -/
def Silent (id : String) (s : Orchestrator) : Prop :=
  (∀ j < s.started, (s.restores j).request.restoreId = id → (s.restores j).task.running = false) ∧
    ∀ res ∈ s.restoreHistory, res.restoreId ≠ id

instance (id : String) (s : Orchestrator) : Decidable (Silent id s) :=
  inferInstanceAs (Decidable (_ ∧ _))

theorem Silent.step {id : String} (h : Silent id s) (e : Event) (he : ¬ e.startsUnder id) :
    Silent id (s.step e) := by
  obtain ⟨hrun, hres⟩ := h
  cases e with
  | startRestore request validation =>
    cases validation
    · simp only [Event.startsUnder] at he
      refine ⟨fun j hj hid => ?_, by simpa using hres⟩
      simp only [step_startRestore_none, spawn_started, spawn_request, spawn_task] at hj hid ⊢
      split at hid
      · exact absurd hid he
      · rename_i hjs; simpa [hjs] using hrun j (by omega) hid
    · exact ⟨hrun, hres⟩
  | cancelRestore _ => rw [step_cancelRestore]; exact ⟨hrun, hres⟩
  | getRestoreStatus => exact ⟨hrun, hres⟩
  | resume k reply =>
    refine ⟨fun j hj hid => ?_, fun res hmem => ?_⟩
    · by_contra hr
      simp only [step_resume, resume_started, resume_request] at hj hid
      have := hrun j hj hid
      rw [resume_running reply (by simpa using hr)] at this
      cases this
    · simp only [step_resume] at hmem
      by_cases hk : k < s.started
      · by_cases hid : (s.restores k).request.restoreId = id
        · rw [resume_restoreHistory_of_not_running reply (hrun k hk hid)] at hmem
          exact hres res hmem
        · rcases resume_restoreHistory (s := s) k reply with e | ⟨q, e, e'⟩
          · rw [e] at hmem; exact hres res hmem
          · rw [e', List.mem_append, List.mem_singleton] at hmem
            rcases hmem with hmem | rfl
            · exact hres res hmem
            · exact hid
      · rw [resume_of_le reply (Nat.not_lt.mp hk)] at hmem; exact hres res hmem
  | tick => exact ⟨hrun, hres⟩

theorem Silent.run {id : String} : ∀ {s : Orchestrator} {es : List Event}, Silent id s →
    (∀ e ∈ es, ¬ e.startsUnder id) → Silent id (s.run es)
  | _, [], h, _ => h
  | s, e :: es, h, hes => @Silent.run _ (s.step e) es (h.step e (hes e (List.mem_cons_self _ _)))
      fun e' he' => hes e' (List.mem_cons_of_mem _ he')

/-- After `cancelBeforeFirstStep` the task has died with the `KeyError` of line 193, nothing is
recorded, and as long as no restore under `"r"` is started again no result under `"r"` ever
is. -/
theorem cancelBeforeFirstStep_loses_result :
    ((Orchestrator.init {} "/w").run cancelBeforeFirstStep).restoreHistory = [] ∧
      (((Orchestrator.init {} "/w").run cancelBeforeFirstStep).restores 0).task = .crashed "'r'" ∧
      ∀ es, (∀ e ∈ es, ¬ e.startsUnder "r") →
        ∀ res ∈ (((Orchestrator.init {} "/w").run cancelBeforeFirstStep).run es).restoreHistory,
          res.restoreId ≠ "r" :=
  ⟨rfl, rfl, fun _ hes => (Silent.run (by decide) hes).2⟩

end Orchestrator

end Restore
end Tkkube
