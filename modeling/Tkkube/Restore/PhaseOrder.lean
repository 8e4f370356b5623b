import Tkkube.Restore.Steps
import Mathlib.Algebra.Order.Field.Rat
import Mathlib.Tactic.GCongr
import Mathlib.Tactic.Linarith

/-!
# The phases of one restore along a run

Restore number `k` of a run, whose id no other restore uses and which nobody cancels, is followed
through every interleaving with the other restores and every outcome of the external calls.  Only
its own task writes its progress object, so what the object goes through is what the segments of
that task do (`resumeAt_spec`), and `PhaseInv` carries this along the run:

* `ProgressMove` is one step of the object: the phase stays, or moves to the next phase or to
  `Failed`, `percent_complete` does not fall, and a message joins `errors` exactly when the phase
  moves to `Failed`;
* `Bounded` holds at every state: `percent_complete` lies in `[0, 100]`, is `100` exactly at
  `Completed`, and `Completed` comes with all six phases returned;
* `Settled` ties each step to the outcome of the segment it ran for the task (`segmentOutcome`):
  the object turns `Failed` exactly at a step whose segment raised, with that message added to its
  errors, and turns `Completed` exactly at a step whose segment returned, after Cleanup;
* the result the task appends has the phase its object ends in.

The main result is `restore_phases_ordered`.
-/

namespace Tkkube
namespace Restore

/-- The phase that follows `phase` when `phase` returns. -/
def RestorePhase.next : RestorePhase → RestorePhase
  | .planning => .validation
  | .validation => .preparation
  | .preparation => .gitopsSync
  | .gitopsSync => .verification
  | .verification => .cleanup
  | .cleanup => .completed
  | .completed => .completed
  | .failed => .failed

/-- `Completed` and `Failed`, after which nothing runs. -/
def RestorePhase.terminal : RestorePhase → Bool
  | .completed | .failed => true
  | _ => false

/-- One step of `progress.phase`: it stays, or a phase that still runs moves to the next phase or
to `Failed`. -/
def RestorePhase.Move (a b : RestorePhase) : Prop :=
  b = a ∨ (a.terminal = false ∧ (b = a.next ∨ b = .failed))

/-- The phase running once `n` phases have returned. -/
def RestorePhase.running : Nat → RestorePhase
  | 0 => .planning
  | 1 => .validation
  | 2 => .preparation
  | 3 => .gitopsSync
  | 4 => .verification
  | _ => .cleanup

theorem RestorePhase.running_succ {n : Nat} (h : n < 5) : running (n + 1) = (running n).next := by
  match n, h with
  | 0, _ | 1, _ | 2, _ | 3, _ | 4, _ => rfl

theorem RestorePhase.running_terminal (n : Nat) : (running n).terminal = false := by
  match n with
  | 0 | 1 | 2 | 3 | 4 | _ + 5 => rfl

theorem Pc.phase_eq_running (pc : Pc) : pc.phase = .running pc.stepsDone := by
  cases pc <;> rfl

theorem percentOf_le {n m : Nat} (h : n ≤ m) : percentOf n 7 ≤ percentOf m 7 := by
  unfold percentOf; gcongr

theorem percentOf_nonneg (n : Nat) : 0 ≤ percentOf n 7 := by
  unfold percentOf
  exact mul_nonneg (div_nonneg n.cast_nonneg (Nat.cast_nonneg 7)) (by norm_num)

theorem percentOf_lt {n : Nat} (h : n < 7) : percentOf n 7 < 100 := by
  have : (n : ℚ) < 7 := by exact_mod_cast h
  simp only [percentOf, Nat.cast_ofNat]
  linarith

/-- One step of a progress object. -/
def ProgressMove (p q : RestoreProgress) : Prop :=
  p.phase.Move q.phase ∧ p.percentComplete ≤ q.percentComplete ∧
    (q.errors = p.errors ∧ (q.phase = .failed → p.phase = .failed) ∨
      p.phase ≠ .failed ∧ q.phase = .failed ∧ ∃ msg, q.errors = p.errors ++ [msg])

/-- The bounds a progress object keeps. -/
def Bounded (p : RestoreProgress) : Prop :=
  0 ≤ p.percentComplete ∧ p.percentComplete ≤ 100 ∧
    (p.percentComplete = 100 ↔ p.phase = .completed) ∧ (p.phase = .completed → p.stepsCompleted = 6)

/-- The progress object of a task that ran its `finally` clause. -/
def Ended (p : RestoreProgress) : Prop :=
  p.phase = .completed ∧ p.stepsCompleted = 6 ∧ p.percentComplete = 100 ∨
    p.phase = .failed ∧ p.stepsCompleted ≤ 5 ∧ p.percentComplete = percentOf p.stepsCompleted 7

theorem ProgressMove.refl (p : RestoreProgress) : ProgressMove p p :=
  ⟨.inl rfl, le_rfl, .inl ⟨rfl, id⟩⟩

theorem StageAt.bounded {pc : Pc} {p : RestoreProgress} (h : StageAt pc p) : Bounded p := by
  obtain ⟨hphase, -, -, hpct⟩ := h
  have hlt := percentOf_lt (show pc.stepsDone < 7 by have := pc.stepsDone_le_five; omega)
  have hrun : p.phase ≠ .completed := by
    rw [hphase, pc.phase_eq_running]
    intro h; simpa [h, RestorePhase.terminal] using RestorePhase.running_terminal pc.stepsDone
  refine ⟨hpct ▸ percentOf_nonneg _, by rw [hpct]; exact hlt.le, ⟨fun h => ?_, fun h => ?_⟩,
    fun h => absurd h hrun⟩
  · rw [hpct] at h; exact absurd h hlt.ne
  · exact absurd h hrun

theorem Ended.bounded {p : RestoreProgress} (h : Ended p) : Bounded p := by
  rcases h with ⟨hphase, hsteps, hpct⟩ | ⟨hphase, hsteps, hpct⟩
  · exact ⟨by rw [hpct]; norm_num, hpct.le, ⟨fun _ => hphase, fun _ => hpct⟩, fun _ => hsteps⟩
  · have hlt := percentOf_lt (show p.stepsCompleted < 7 by omega)
    refine ⟨hpct ▸ percentOf_nonneg _, by rw [hpct]; exact hlt.le, ⟨fun h => ?_, fun h => ?_⟩, fun h => ?_⟩
    · rw [hpct] at h; exact absurd h hlt.ne
    all_goals rw [hphase] at h; cases h

theorem RestorePhase.running_ne_failed (n : Nat) : running n ≠ .failed := by
  intro h; simpa [h, terminal] using running_terminal n

theorem RestorePhase.running_ne_completed (n : Nat) : running n ≠ .completed := by
  intro h; simpa [h, terminal] using running_terminal n

/-- A task suspended at a call is in a phase that still runs. -/
theorem StageAt.running {pc : Pc} {p : RestoreProgress} (h : StageAt pc p) :
    p.phase ≠ .failed ∧ p.phase ≠ .completed := by
  rw [h.1, pc.phase_eq_running]
  exact ⟨RestorePhase.running_ne_failed _, RestorePhase.running_ne_completed _⟩

/-- A segment that stops at its next suspension point moves the stage forward. -/
theorem StageAt.move {pc pc' : Pc} {p q : RestoreProgress} (hp : StageAt pc p) (hq : StageAt pc' q)
    (hle : pc.stepsDone ≤ pc'.stepsDone) (hle' : pc'.stepsDone ≤ pc.stepsDone + 1)
    (herr : q.errors = p.errors) : ProgressMove p q := by
  obtain ⟨hphase, -, -, hpct⟩ := hp
  obtain ⟨hphase', -, -, hpct'⟩ := hq
  rw [Pc.phase_eq_running] at hphase hphase'
  refine ⟨?_, by rw [hpct, hpct']; exact percentOf_le hle,
    .inl ⟨herr, fun h => absurd (hphase' ▸ h) (RestorePhase.running_ne_failed _)⟩⟩
  rw [hphase, hphase']
  rcases Nat.eq_or_lt_of_le hle with h | h
  · exact .inl (by rw [h])
  · have h5 := pc'.stepsDone_le_five
    refine .inr ⟨RestorePhase.running_terminal _, .inl ?_⟩
    rw [show pc'.stepsDone = pc.stepsDone + 1 by omega, RestorePhase.running_succ (by omega)]

/-- The last phase returned: the object is completed. -/
theorem StageAt.complete {pc : Pc} {p q : RestoreProgress} (hp : StageAt pc p)
    (hq : StagePost pc p (.ok .returned) q) (herr : q.errors = p.errors) :
    ProgressMove p (Orchestrator.completedProgress q) ∧ Ended (Orchestrator.completedProgress q) := by
  obtain ⟨rfl, -, hsteps, -, -⟩ := hq
  obtain ⟨hphase, -, -, hpct⟩ := hp
  refine ⟨⟨.inr ⟨by rw [hphase]; rfl, .inl (by rw [hphase]; rfl)⟩, ?_, .inl ⟨herr, nofun⟩⟩,
    .inl ⟨rfl, hsteps, rfl⟩⟩
  rw [hpct]; exact (percentOf_lt (by decide)).le

/-- A phase raised `msg`: the object fails with the message recorded. -/
theorem StageAt.fail {pc : Pc} {p q : RestoreProgress} {msg : String} (hp : StageAt pc p)
    (hq : StagePost pc p (.error msg) q) (herr : q.errors = p.errors) :
    ProgressMove p (Orchestrator.failedProgress q msg) ∧ Ended (Orchestrator.failedProgress q msg) := by
  obtain ⟨hphase', hsteps', -, hpct'⟩ := hq
  obtain ⟨hphase, hsteps, -, hpct⟩ := hp
  rw [Pc.phase_eq_running] at hphase
  refine ⟨⟨.inr ⟨by rw [hphase]; exact RestorePhase.running_terminal _, .inr rfl⟩, hpct'.ge,
    .inr ⟨by rw [hphase]; exact RestorePhase.running_ne_failed _, rfl, msg, by
      simp [Orchestrator.failedProgress, herr]⟩⟩, .inr ⟨rfl, ?_, ?_⟩⟩
  · simp only [Orchestrator.failedProgress, hsteps', hsteps]; exact pc.stepsDone_le_five
  · simp only [Orchestrator.failedProgress, hsteps', hsteps, hpct', hpct]

namespace Orchestrator

variable {s : Orchestrator} {k : Nat}

/-- Where restore `k` stands: a task that has not run its `finally` clause is entered under its
id and holds its own object, at the stage of the call it awaits. -/
def Tracked (k : Nat) (s : Orchestrator) : Prop :=
  match (s.restores k).task with
  | .spawned => s.activeRestores (s.restores k).request.restoreId = some k ∧
      StageAt .loadBackupMetadata (s.restores k).progress
  | .suspended ref pc _ => ref = k ∧ s.activeRestores (s.restores k).request.restoreId = some k ∧
      StageAt pc (s.restores k).progress
  | .finished => Ended (s.restores k).progress
  | .crashed _ => False

theorem Tracked.bounded (h : Tracked k s) : Bounded (s.restores k).progress := by
  unfold Tracked at h
  split at h
  · exact h.2.bounded
  · exact h.2.2.bounded
  · exact h.bounded
  · exact h.elim

/-- A segment of task `k` on its own object, from a stage the segment's spec starts from. -/
theorem Tracked.runSegment {hr : List (String × Value)} {m : TaskM Next} {pc : Pc} {ctx : Ctx}
    (hact : s.activeRestores (s.restores k).request.restoreId = some k)
    (hstage : StageAt pc (s.restores k).progress)
    (hspec : SegmentSpec ctx pc (s.frameOf k k hr) (m.run (s.frameOf k k hr)).1
      (m.run (s.frameOf k k hr)).2) :
    Tracked k (s.runSegment k k hr m) ∧
      ProgressMove (s.restores k).progress ((s.runSegment k k hr m).restores k).progress ∧
      ((s.runSegment k k hr m).restoreHistory = s.restoreHistory ∨
        ∃ res, (s.runSegment k k hr m).restoreHistory = s.restoreHistory ++ [res] ∧
          res.restoreId = (s.restores k).request.restoreId ∧
          res.phase = ((s.runSegment k k hr m).restores k).progress.phase ∧
          ((s.runSegment k k hr m).restores k).task = .finished) := by
  rw [runSegment_eq]
  generalize m.run (s.frameOf k k hr) = out at hspec ⊢
  obtain ⟨res, f⟩ := out
  have hpost := hspec.stage hstage
  have herr : f.progress.errors = (s.restores k).progress.errors := hspec.errors
  rcases settle_cases (s := s.writeBack k k f) k k res f.progress f.healthReport with
    ⟨pc', rfl, h⟩ | ⟨rfl, h⟩ | ⟨msg, rfl, h⟩ <;> rw [h]
  · obtain ⟨hle, hle'⟩ := hspec.next
    refine ⟨?_, by simpa using hstage.move hpost hle hle' herr, .inl rfl⟩
    simpa [Tracked, hact] using hpost
  · obtain ⟨hmove, hend⟩ := hstage.complete hpost herr
    refine ⟨?_, by simpa using hmove, .inr ⟨_, terminate_restoreHistory, by simp [assembleResult],
      by simp [assembleResult, completedProgress], by simp⟩⟩
    simpa [Tracked] using hend
  · obtain ⟨hmove, hend⟩ := hstage.fail hpost herr
    refine ⟨?_, by simpa using hmove, .inr ⟨_, terminate_restoreHistory, by simp [assembleResult],
      by simp [assembleResult, failedProgress], by simp⟩⟩
    simpa [Tracked] using hend

theorem Tracked.congr {s' : Orchestrator} (h : Tracked k s)
    (hreq : (s'.restores k).request = (s.restores k).request)
    (hprog : (s'.restores k).progress = (s.restores k).progress)
    (htask : (s'.restores k).task = (s.restores k).task)
    (hact : s'.activeRestores (s.restores k).request.restoreId =
      s.activeRestores (s.restores k).request.restoreId) : Tracked k s' := by
  unfold Tracked; rw [hreq, hprog, htask, hact]; exact h

/-! ## What ends a phase -/

/-- What the segment that event `e` runs for task `k` ends with: `none` when `e` runs none (another
event, a step of another task or of a task that has ended, or the `KeyError` of line 193). -/
def segmentOutcome (s : Orchestrator) (k : Nat) : Event → Option (Except String Next)
  | .resume j reply =>
      if j = k ∧ k < s.started then
        match (s.restores k).task with
        | .spawned => (s.activeRestores (s.restores k).request.restoreId).map fun ref =>
            (phasePlanningStart.run (s.frameOf k ref [])).1
        | .suspended ref pc healthReport =>
            some ((resumeAt (s.ctxOf k) pc reply).run (s.frameOf k ref healthReport)).1
        | .finished | .crashed _ => none
      else none
  | _ => none

/-- How a step leaves an object, from `p` to `p'`, given what the segment it ran ended with: the
object turns `Failed` exactly when the segment raised, and the message joins its errors; it turns
`Completed` exactly when the segment returned, which only the segment ending Cleanup does. -/
def Settled (p : RestoreProgress) (outcome : Option (Except String Next)) (p' : RestoreProgress) :
    Prop :=
  (p.phase ≠ .failed ∧ p'.phase = .failed ↔ ∃ msg, outcome = some (.error msg)) ∧
    (∀ msg, outcome = some (.error msg) → p'.errors = p.errors ++ [msg]) ∧
    (p.phase ≠ .completed ∧ p'.phase = .completed ↔ outcome = some (.ok .returned))

theorem Settled.idle (p : RestoreProgress) : Settled p none p := by
  simp [Settled]

/-- A segment of task `k` on its own object, from a stage the segment's spec starts from, leaves
the object `Settled` by what the segment ended with. -/
theorem Settled.runSegment {hr : List (String × Value)} {m : TaskM Next} {pc : Pc} {ctx : Ctx}
    (hstage : StageAt pc (s.restores k).progress)
    (hspec : SegmentSpec ctx pc (s.frameOf k k hr) (m.run (s.frameOf k k hr)).1
      (m.run (s.frameOf k k hr)).2) :
    Settled (s.restores k).progress (some (m.run (s.frameOf k k hr)).1)
      ((s.runSegment k k hr m).restores k).progress := by
  rw [runSegment_eq]
  generalize m.run (s.frameOf k k hr) = out at hspec ⊢
  obtain ⟨res, f⟩ := out
  have herr : f.progress.errors = (s.restores k).progress.errors := hspec.errors
  obtain ⟨hnf, hnc⟩ := hstage.running
  rcases settle_cases (s := s.writeBack k k f) k k res f.progress f.healthReport with
    ⟨pc', rfl, h⟩ | ⟨rfl, h⟩ | ⟨msg, rfl, h⟩ <;> rw [h]
  · obtain ⟨hnf', hnc'⟩ := (hspec.stage hstage : StageAt pc' f.progress).running
    simp [Settled, hnf', hnc']
  · simp [Settled, completedProgress, hnc]
  · simp [Settled, failedProgress, hnf, herr]

/-! ## Along a run -/

/-- The event neither starts a restore with id `r` other than restore `k`, nor cancels `r`. -/
def Keeps (r : String) (k : Nat) (s : Orchestrator) : Event → Prop
  | .startRestore request none => request.restoreId = r ↔ s.started = k
  | .cancelRestore restoreId => restoreId ≠ r
  | _ => True

/-- Restore `k` between two consecutive states of a run: it is created as `start_restore` creates
it, and afterwards its object moves by `ProgressMove`. -/
def Follows (k : Nat) (s s' : Orchestrator) : Prop :=
  (s.started ≤ k → k < s'.started → (s'.restores k).progress = initialProgress s.clock) ∧
    (k < s.started → ProgressMove (s.restores k).progress (s'.restores k).progress)

/-- What a run keeps about restore `k`, whose id is `r`. -/
structure PhaseInv (r : String) (k : Nat) (s : Orchestrator) : Prop where
  inv : Inv s
  unique : ∀ j < s.started, (s.restores j).request.restoreId = r → j = k
  tracked : k < s.started → (s.restores k).request.restoreId = r ∧ Tracked k s
  results : ∀ res ∈ s.restoreHistory, res.restoreId = r →
    k < s.started ∧ (s.restores k).task = .finished ∧ res.phase = (s.restores k).progress.phase

variable {r : String}

theorem initialProgress_stage (now : Nat) : StageAt .loadBackupMetadata (initialProgress now) :=
  ⟨rfl, rfl, rfl, by simp [percentOf, initialProgress, Pc.stepsDone]⟩

/-- A step that changes nothing restore `k` or the entry of `r` depends on. -/
theorem PhaseInv.frame {s' : Orchestrator} (hs : PhaseInv r k s) (hinv : Inv s')
    (hstarted : s'.started = s.started)
    (hreq : ∀ i, (s'.restores i).request = (s.restores i).request)
    (hslot : k < s.started → (s'.restores k).progress = (s.restores k).progress ∧
      (s'.restores k).task = (s.restores k).task)
    (hact : s'.activeRestores r = s.activeRestores r)
    (hhist : ∀ res ∈ s'.restoreHistory, res.restoreId = r → res ∈ s.restoreHistory) :
    PhaseInv r k s' ∧ Follows k s s' := by
  refine ⟨⟨hinv, fun j hj h => hs.unique j (hstarted ▸ hj) (hreq j ▸ h), fun hk => ?_,
    fun res hres h => ?_⟩, fun h h' => absurd (hstarted ▸ h') (Nat.not_lt.mpr h),
    fun hk => (hslot hk).1 ▸ ProgressMove.refl _⟩
  · have hk' := hstarted ▸ hk
    obtain ⟨hid, htr⟩ := hs.tracked hk'
    exact ⟨hreq k ▸ hid, htr.congr (hreq k) (hslot hk').1 (hslot hk').2 (hid ▸ hact)⟩
  · have hold := hs.results res (hhist res hres h) h
    rw [hstarted, (hslot hold.1).1, (hslot hold.1).2]; exact hold

theorem PhaseInv.spawn (hs : PhaseInv r k s) (request : RestoreRequest)
    (he : request.restoreId = r ↔ s.started = k) :
    PhaseInv r k (s.spawn request) ∧ Follows k s (s.spawn request) := by
  refine ⟨⟨hs.inv.spawn request, fun j hj h => ?_, fun hk => ?_, fun res hres h => ?_⟩,
    fun h h' => ?_, fun h => ?_⟩
  · simp only [spawn_request] at h
    split at h
    · rename_i hjs; rw [hjs]; exact he.mp h
    · exact hs.unique j (by simp at hj; omega) h
  · by_cases hks : k = s.started
    · subst hks
      obtain rfl := he.mpr rfl
      simpa [Tracked] using initialProgress_stage s.clock
    · have hk' : k < s.started := by simp at hk; omega
      obtain ⟨hid, htr⟩ := hs.tracked hk'
      have hne : request.restoreId ≠ r := fun h => hks (he.mp h).symm
      refine ⟨by simpa [hks] using hid, htr.congr (by simp [hks]) (by simp [hks]) (by simp [hks]) ?_⟩
      simp [Function.update_apply, hid, Ne.symm hne]
  · have hold := hs.results res hres h
    simpa [Nat.ne_of_lt hold.1, Nat.lt_succ_of_lt hold.1] using hold.2
  · simp [show k = s.started by simp at h'; omega]
  · simp [Nat.ne_of_lt h, ProgressMove.refl]

/-- A step of task `k` itself, which runs a segment on its own object. -/
theorem PhaseInv.runSegment_self (hs : PhaseInv r k s) (hk : k < s.started)
    {hr : List (String × Value)} {m : TaskM Next} {pc : Pc} {ctx : Ctx}
    (hinv : Inv (s.runSegment k k hr m))
    (hact : s.activeRestores (s.restores k).request.restoreId = some k)
    (hstage : StageAt pc (s.restores k).progress)
    (hspec : SegmentSpec ctx pc (s.frameOf k k hr) (m.run (s.frameOf k k hr)).1
      (m.run (s.frameOf k k hr)).2)
    (hlive : (s.restores k).task ≠ .finished) :
    PhaseInv r k (s.runSegment k k hr m) ∧ Follows k s (s.runSegment k k hr m) := by
  obtain ⟨htr', hmove, hhist⟩ := Tracked.runSegment hact hstage hspec
  obtain ⟨hid, -⟩ := hs.tracked hk
  refine ⟨⟨hinv, fun j hj h => hs.unique j (by simpa using hj) (by simpa using h),
    fun _ => ⟨by simpa using hid, htr'⟩, fun res hres h => ?_⟩,
    fun h => absurd hk (Nat.not_lt.mpr h), fun _ => hmove⟩
  have hold : res ∉ s.restoreHistory := fun hmem => hlive (hs.results res hmem h).2.1
  rcases hhist with heq | ⟨res0, heq, -, hphase, htask⟩
  · rw [heq] at hres; exact absurd hres hold
  · rw [heq, List.mem_append, List.mem_singleton] at hres
    rcases hres with hres | rfl
    · exact absurd hres hold
    · exact ⟨by simpa using hk, htask, hphase⟩

theorem PhaseInv.resume_self (hs : PhaseInv r k s) (reply : Reply) :
    PhaseInv r k (s.resume k reply) ∧ Follows k s (s.resume k reply) := by
  have hinv := hs.inv.resume k reply
  by_cases hk : k < s.started
  swap
  · rw [resume_of_le reply (Nat.not_lt.mp hk)]
    exact ⟨hs, fun _ h' => absurd h' hk, fun _ => .refl _⟩
  obtain ⟨-, htr⟩ := hs.tracked hk
  unfold Tracked at htr
  split at htr
  · rename_i htask
    rw [resume_spawned reply hk htask htr.1] at hinv ⊢
    exact hs.runSegment_self hk hinv htr.1 htr.2 (phasePlanningStart_spec (s.ctxOf k) _)
      (by rw [htask]; nofun)
  · rename_i ref pc hr htask
    obtain ⟨rfl, hact, hstage⟩ := htr
    rw [resume_suspended reply hk htask] at hinv ⊢
    exact hs.runSegment_self hk hinv hact hstage (resumeAt_spec _ pc reply _ rfl)
      (by rw [htask]; nofun)
  · rw [resume_finished reply ‹_›]
    exact ⟨hs, fun h => absurd hk (Nat.not_lt.mpr h), fun _ => .refl _⟩
  · exact htr.elim

theorem PhaseInv.resume_other (hs : PhaseInv r k s) {j : Nat} (hjk : j ≠ k) (reply : Reply) :
    PhaseInv r k (s.resume j reply) ∧ Follows k s (s.resume j reply) := by
  by_cases hj : j < s.started
  swap
  · rw [resume_of_le reply (Nat.not_lt.mp hj)]
    exact ⟨hs, fun _ h' => absurd h' (Nat.not_lt.mpr ‹_›), fun _ => .refl _⟩
  have hidj : (s.restores j).request.restoreId ≠ r := fun h => hjk (hs.unique j hj h)
  refine hs.frame (hs.inv.resume j reply) resume_started (fun _ => resume_request) (fun hk => ?_)
    (resume_activeRestores_of_ne (Ne.symm hidj)) (fun res hres h => ?_)
  · exact hs.inv.resume_of_ne reply (by rw [(hs.tracked hk).1]; exact Ne.symm hidj)
  · rcases resume_restoreHistory (s := s) j reply with heq | ⟨q, e, heq⟩
    · rwa [heq] at hres
    · rw [heq, List.mem_append, List.mem_singleton] at hres
      rcases hres with hres | rfl
      · exact hres
      · exact absurd h hidj

theorem PhaseInv.step (hs : PhaseInv r k s) :
    ∀ e, Keeps r k s e → PhaseInv r k (s.step e) ∧ Follows k s (s.step e)
  | .startRestore request none, he => hs.spawn request he
  | .startRestore _ (some _), _ =>
      hs.frame hs.inv rfl (fun _ => rfl) (fun _ => ⟨rfl, rfl⟩) rfl (fun _ h _ => h)
  | .cancelRestore restoreId, he => by
      have hinv := hs.inv.step (.cancelRestore restoreId)
      rw [step_cancelRestore] at hinv ⊢
      exact hs.frame hinv rfl (fun _ => rfl) (fun _ => ⟨rfl, rfl⟩)
        (by simp [Function.update_apply, Ne.symm he]) (fun _ h _ => h)
  | .getRestoreStatus _, _ =>
      hs.frame hs.inv rfl (fun _ => rfl) (fun _ => ⟨rfl, rfl⟩) rfl (fun _ h _ => h)
  | .resume j reply, _ => by
      rw [step_resume]
      by_cases hj : j = k
      · subst hj; exact hs.resume_self reply
      · exact hs.resume_other hj reply
  | .tick, _ => hs.frame (hs.inv.step .tick) rfl (fun _ => rfl) (fun _ => ⟨rfl, rfl⟩) rfl (fun _ h _ => h)

/-- Every event leaves restore `k` `Settled` by what the segment it ran for task `k` ended with. -/
theorem PhaseInv.settled (hs : PhaseInv r k s) (hk : k < s.started) :
    ∀ e, Settled (s.restores k).progress (s.segmentOutcome k e) ((s.step e).restores k).progress
  | .startRestore request none => by
      rw [step_startRestore_none, spawn_progress, if_neg (Nat.ne_of_lt hk)]; exact Settled.idle _
  | .startRestore _ (some _) => Settled.idle _
  | .cancelRestore _ => by rw [step_cancelRestore]; exact Settled.idle _
  | .getRestoreStatus _ => Settled.idle _
  | .tick => Settled.idle _
  | .resume j reply => by
      rw [step_resume]
      by_cases hj : j = k
      · subst hj
        obtain ⟨-, htr⟩ := hs.tracked hk
        unfold Tracked at htr
        split at htr
        · rename_i htask
          rw [resume_spawned reply hk htask htr.1,
            show s.segmentOutcome j (.resume j reply) = some (phasePlanningStart.run (s.frameOf j j [])).1
              by simp [segmentOutcome, hk, htask, htr.1]]
          exact Settled.runSegment htr.2 (phasePlanningStart_spec (s.ctxOf j) _)
        · rename_i ref pc hr htask
          obtain ⟨rfl, -, hstage⟩ := htr
          rw [resume_suspended reply hk htask,
            show s.segmentOutcome ref (.resume ref reply) =
              some ((resumeAt (s.ctxOf ref) pc reply).run (s.frameOf ref ref hr)).1
              by simp [segmentOutcome, hk, htask]]
          exact Settled.runSegment hstage (resumeAt_spec _ pc reply _ rfl)
        · rename_i htask
          rw [resume_finished reply htask,
            show s.segmentOutcome j (.resume j reply) = none by simp [segmentOutcome, htask]]
          exact Settled.idle _
        · exact htr.elim
      · rw [show s.segmentOutcome k (.resume j reply) = none by simp [segmentOutcome, hj]]
        by_cases hjs : j < s.started
        · have hidj : (s.restores j).request.restoreId ≠ r := fun h => hj (hs.unique j hjs h)
          rw [(hs.inv.resume_of_ne reply (by rw [(hs.tracked hk).1]; exact Ne.symm hidj)).1]
          exact Settled.idle _
        · rw [resume_of_le reply (Nat.not_lt.mp hjs)]; exact Settled.idle _

/-- The conditions on the restore, stated on the end of the run, are met at every event of it. -/
theorem keeps_of_run {es : List Event} (hr : ((s.run es).restores k).request.restoreId = r)
    (hunique : ∀ j < (s.run es).started, ((s.run es).restores j).request.restoreId = r → j = k)
    (hcancel : ∀ e ∈ es, e ≠ .cancelRestore r) : ∀ q ∈ s.transitions es, Keeps r k q.1 q.2 := by
  rintro ⟨t, e⟩ hq
  obtain ⟨he, rest, hrun⟩ := mem_transitions hq
  cases e with
  | startRestore request validation =>
    cases validation with
    | none =>
      rw [step_startRestore_none] at hrun
      have hslot : ((s.run es).restores t.started).request = request := by
        rw [← hrun, run_request rest (by simp)]; simp
      have hlt : t.started < (s.run es).started := by
        rw [← hrun]; exact (Nat.lt_succ_self _).trans_le (started_le_run (s := t.spawn request) rest)
      show request.restoreId = r ↔ t.started = k
      constructor
      · intro h; exact hunique _ hlt (by rw [hslot, h])
      · rintro rfl; rw [← hr, hslot]
    | some _ => trivial
  | cancelRestore restoreId => exact fun h => hcancel _ he (h ▸ rfl)
  | _ => trivial

theorem PhaseInv.init (settings : GitopsSettings) (workDir : String) :
    PhaseInv r k (Orchestrator.init settings workDir) :=
  ⟨Inv.init settings workDir, fun _ hj => absurd hj (Nat.not_lt_zero _),
    fun hk => absurd hk (Nat.not_lt_zero _), fun _ h => by cases h⟩

/-- **Phase order.**  Along every run from a fresh orchestrator, restore `k`, whose id `r` no
other restore of the run uses and which the run never cancels, is created at `Planning` with
nothing done and then moves by `ProgressMove` at each step.  Each step leaves it `Settled` by the
segment it ran for the restore's task: it turns `Failed` exactly at the step whose segment raised,
with that exception's message recorded, and `Completed` exactly at the step whose segment returned.
Its progress object keeps `Bounded` at every state, and every result recorded under `r` is a
success exactly when its phase is `Completed`, the phase the object ends in. -/
theorem restore_phases_ordered (settings : GitopsSettings) (workDir : String) (es : List Event)
    (k : Nat) (r : String)
    (hr : (((Orchestrator.init settings workDir).run es).restores k).request.restoreId = r)
    (hunique : ∀ j < ((Orchestrator.init settings workDir).run es).started,
      (((Orchestrator.init settings workDir).run es).restores j).request.restoreId = r → j = k)
    (hcancel : ∀ e ∈ es, e ≠ .cancelRestore r) :
    ((Orchestrator.init settings workDir).trace es).Chain' (Follows k) ∧
      (∀ q ∈ (Orchestrator.init settings workDir).transitions es, k < q.1.started →
        Settled (q.1.restores k).progress (q.1.segmentOutcome k q.2)
          ((q.1.step q.2).restores k).progress) ∧
      (∀ t ∈ (Orchestrator.init settings workDir).trace es, k < t.started →
        Bounded (t.restores k).progress) ∧
      ∀ res ∈ ((Orchestrator.init settings workDir).run es).restoreHistory, res.restoreId = r →
        (res.success = true ↔ res.phase = .completed) ∧
          res.phase = (((Orchestrator.init settings workDir).run es).restores k).progress.phase := by
  obtain ⟨hchain, hall⟩ := trace_chain (fun _ e hs he => hs.step e he) (PhaseInv.init settings workDir)
    (keeps_of_run hr hunique hcancel)
  have hfinal := hall _ (run_mem_trace _ es)
  exact ⟨hchain, fun q hq hk => (hall q.1 (mem_trace_of_mem_transitions hq)).settled hk q.2,
    fun t ht hk => ((hall t ht).tracked hk).2.bounded,
    fun res hres hid => ⟨(hfinal.inv.history res hres).2.2.2, (hfinal.results res hres hid).2.2⟩⟩

theorem restore_phases_ordered_planningFails :
    let es : List Event :=
      [.startRestore ⟨"r1", "b1", "src", "dst", .fullCluster, .clusterRebuild, none, none, false⟩ none,
        .resume 0 .done, .resume 0 (.metadata none)]
    ((((Orchestrator.init {} "/tmp").run es).restores 0).request.restoreId = "r1" ∧
      (∀ j < ((Orchestrator.init {} "/tmp").run es).started,
        (((Orchestrator.init {} "/tmp").run es).restores j).request.restoreId = "r1" → j = 0) ∧
      ∀ e ∈ es, e ≠ .cancelRestore "r1") ∧
    (((Orchestrator.init {} "/tmp").trace es).Chain' (Follows 0) ∧
      (∀ q ∈ (Orchestrator.init {} "/tmp").transitions es, 0 < q.1.started →
        Settled (q.1.restores 0).progress (q.1.segmentOutcome 0 q.2)
          ((q.1.step q.2).restores 0).progress) ∧
      (∀ t ∈ (Orchestrator.init {} "/tmp").trace es, 0 < t.started →
        Bounded (t.restores 0).progress) ∧
      ∀ res ∈ ((Orchestrator.init {} "/tmp").run es).restoreHistory, res.restoreId = "r1" →
        (res.success = true ↔ res.phase = .completed) ∧
          res.phase = (((Orchestrator.init {} "/tmp").run es).restores 0).progress.phase) ∧
    (((Orchestrator.init {} "/tmp").run es).restores 0).progress.phase = .failed :=
  have h1 : _ := by decide
  have h2 : _ := by decide
  have h3 : _ := by simp
  ⟨⟨h1, h2, h3⟩, restore_phases_ordered {} "/tmp" _ 0 "r1" h1 h2 h3, by decide⟩

end Orchestrator

end Restore
end Tkkube
