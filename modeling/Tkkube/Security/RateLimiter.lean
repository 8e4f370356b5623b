import Mathlib.Algebra.Order.Field.Rat
import Mathlib.Data.List.Chain
import Mathlib.Tactic.Linarith

/-!
# The sliding-window rate limiter

`RateLimiter` of `python_security.py`, which `validate_request` asks once per request with the
source address.  A client's record holds the times of its requests that were still in the window at
its last call and `last_request`, the time of its last accepted call (or of its first call).  Every
five minutes `allow` first runs `_cleanup`, which drops the clients whose `last_request` lies more
than twice the window back.  Clock readings are exact numbers.

What the limiter is for is `admits`: a call of client `c` at time `t` is accepted when fewer than
`max_requests` accepted calls of `c` lie in `(t - window_seconds, t]`.  Along calls with
non-decreasing times the limiter `Agrees` with its accepted calls: whatever time comes next, the
requests it holds for a client in the window are the client's accepted calls in the window.  A
client `_cleanup` drops has no request left in any later window, so cleanup never changes an answer
(`answers_eq_specAnswers`), and no half-open window ever holds more than `max_requests` accepted
calls of one client (`windowCount_acceptedAfter_le`).
-/

namespace Tkkube
namespace Security

/-- A client's entry of `self.clients`. -/
structure ClientRecord where
  requests : List ℚ
  lastRequest : ℚ

/-- `RateLimiter`: its settings, its clients and the time of its last cleanup. -/
structure RateLimiter where
  maxRequests : Int
  windowSeconds : Int
  clients : String → Option ClientRecord
  cleanupInterval : Int
  lastCleanup : ℚ

namespace RateLimiter

/-- `RateLimiter(max_requests, window_seconds)` constructed at clock reading `now`. -/
def init (maxRequests windowSeconds : Int) (now : ℚ) : RateLimiter :=
  ⟨maxRequests, windowSeconds, fun _ => none, 300, now⟩

/-- `_cleanup(now)`: the clients whose last request lies before `now - window_seconds * 2` are
removed. -/
def cleanup (rl : RateLimiter) (now : ℚ) : RateLimiter :=
  { rl with
    clients := fun c => match rl.clients c with
      | some r => if r.lastRequest < now - ((rl.windowSeconds * 2 : Int) : ℚ) then none else some r
      | none => none
    lastCleanup := now }

/-- `allow(client_id)` after its cleanup: the record is created if missing, its requests outside
the window are dropped, and the call is refused at `max_requests` requests or recorded.  The record
keeps the requests still in the window also when the call is refused. -/
def allowAfterCleanup (rl : RateLimiter) (clientId : String) (now : ℚ) : Bool × RateLimiter :=
  let client := (rl.clients clientId).getD ⟨[], now⟩
  let requests := client.requests.filter fun t => t > now - rl.windowSeconds
  if (requests.length : Int) ≥ rl.maxRequests then
    (false, { rl with clients := Function.update rl.clients clientId (some { client with requests }) })
  else
    (true, { rl with clients := Function.update rl.clients clientId (some ⟨requests ++ [now], now⟩) })

/-- `allow(client_id)` at clock reading `now`: the answer and the limiter after the call. -/
def allow (rl : RateLimiter) (clientId : String) (now : ℚ) : Bool × RateLimiter :=
  (if now - rl.lastCleanup > rl.cleanupInterval then rl.cleanup now else rl).allowAfterCleanup
    clientId now

/-- The answers to calls `allow(client, time)` made one after another. -/
def answers (rl : RateLimiter) : List (String × ℚ) → List Bool
  | [] => []
  | (c, t) :: calls => (rl.allow c t).1 :: (rl.allow c t).2.answers calls

/-- The request times the limiter holds for `c`. -/
def storedOf (rl : RateLimiter) (c : String) : List ℚ :=
  ((rl.clients c).map (·.requests)).getD []

@[simp] theorem cleanup_maxRequests (rl : RateLimiter) (now : ℚ) :
    (rl.cleanup now).maxRequests = rl.maxRequests := rfl
@[simp] theorem cleanup_windowSeconds (rl : RateLimiter) (now : ℚ) :
    (rl.cleanup now).windowSeconds = rl.windowSeconds := rfl

end RateLimiter

/-! ## What the limiter is for -/

/-- The accepted calls of client `c` in the window `(t - w, t]`. -/
def windowCount (w : Int) (accepted : List (String × ℚ)) (c : String) (t : ℚ) : Nat :=
  (accepted.filter fun a => a.1 = c ∧ t - w < a.2 ∧ a.2 ≤ t).length

/-- A call of `c` at `t` is accepted when fewer than `max` accepted calls of `c` lie in its window. -/
def admits (max w : Int) (accepted : List (String × ℚ)) (c : String) (t : ℚ) : Bool :=
  decide ((windowCount w accepted c t : Int) < max)

/-- The accepted calls after one more call. -/
def record (max w : Int) (accepted : List (String × ℚ)) (call : String × ℚ) : List (String × ℚ) :=
  if admits max w accepted call.1 call.2 then accepted ++ [call] else accepted

/-- The answers `admits` gives along calls, each decided from the calls accepted before it. -/
def specAnswers (max w : Int) (accepted : List (String × ℚ)) : List (String × ℚ) → List Bool
  | [] => []
  | call :: calls => admits max w accepted call.1 call.2 :: specAnswers max w (record max w accepted call) calls

/-- The calls accepted after a sequence of calls. -/
def acceptedAfter (max w : Int) (accepted : List (String × ℚ)) (calls : List (String × ℚ)) :
    List (String × ℚ) :=
  calls.foldl (record max w) accepted

/-- The times of the accepted calls of client `c`, in order. -/
def timesOf (accepted : List (String × ℚ)) (c : String) : List ℚ :=
  (accepted.filter (·.1 = c)).map (·.2)

theorem timesOf_append (accepted : List (String × ℚ)) (c c' : String) (t : ℚ) :
    timesOf (accepted ++ [(c', t)]) c = timesOf accepted c ++ if c' = c then [t] else [] := by
  by_cases h : c' = c <;> simp [timesOf, List.filter_append, h]

/-- Once every accepted call is at most `t`, the window of `t` is the filter `> t - w` of the
client's times. -/
theorem windowCount_eq {w : Int} {accepted : List (String × ℚ)} {t : ℚ}
    (h : ∀ a ∈ accepted, a.2 ≤ t) (c : String) :
    windowCount w accepted c t = ((timesOf accepted c).filter fun s => s > t - w).length := by
  rw [windowCount, timesOf, List.filter_map, List.length_map, List.filter_filter]
  congr 1
  refine List.filter_congr fun a ha => ?_
  simp [h a ha, and_comm, Bool.and_comm]

/-- Filtering at a later time keeps only what the earlier filter kept. -/
theorem filter_window_of_le {w : Int} {t t' : ℚ} (h : t ≤ t') (l : List ℚ) :
    (l.filter fun s => s > t - w).filter (fun s => s > t' - w) = l.filter fun s => s > t' - w := by
  rw [List.filter_filter]
  refine List.filter_congr fun s _ => ?_
  by_cases hs : s > t' - w
  · have : s > t - w := by linarith
    simp [hs, this]
  · simp [hs]

namespace RateLimiter

/-! ## The limiter agrees with its accepted calls -/

/-- The limiter holds what the accepted calls say, all of them made by time `now`: at every time
from `now` on, the requests it holds for a client in the window are the client's accepted calls in
the window, and each record's requests precede its `last_request`, which is at most `now`. -/
structure Agrees (rl : RateLimiter) (accepted : List (String × ℚ)) (now : ℚ) : Prop where
  past : ∀ a ∈ accepted, a.2 ≤ now
  stored : ∀ c, ∀ t ≥ now, (storedOf rl c).filter (fun s => s > t - rl.windowSeconds) =
    (timesOf accepted c).filter fun s => s > t - rl.windowSeconds
  records : ∀ c r, rl.clients c = some r → (∀ s ∈ r.requests, s ≤ r.lastRequest) ∧ r.lastRequest ≤ now

/-- A limiter without clients agrees with no accepted call, at every time. -/
theorem Agrees.noClients {rl : RateLimiter} (h : ∀ c, rl.clients c = none) (now : ℚ) :
    Agrees rl [] now :=
  ⟨fun _ h => absurd h (List.not_mem_nil _), fun c _ _ => by simp [storedOf, timesOf, h c],
    fun c _ hr => by simp [h c] at hr⟩

variable {rl : RateLimiter} {accepted : List (String × ℚ)} {now : ℚ}

theorem Agrees.mono (h : Agrees rl accepted now) {t : ℚ} (ht : now ≤ t) : Agrees rl accepted t :=
  ⟨fun a ha => (h.past a ha).trans ht, fun c t' ht' => h.stored c t' (ht.trans ht'),
    fun c r hr => ⟨(h.records c r hr).1, (h.records c r hr).2.trans ht⟩⟩

/-- A client `_cleanup` drops has no request left in any later window. -/
theorem Agrees.cleanup (h : Agrees rl accepted now) : Agrees (rl.cleanup now) accepted now := by
  refine ⟨h.past, fun c t ht => ?_, fun c r hr => ?_⟩
  · rw [cleanup_windowSeconds, ← h.stored c t ht]
    simp only [storedOf, RateLimiter.cleanup]
    rcases hc : rl.clients c with _ | r
    · rfl
    · simp only
      split
      · rename_i hold
        obtain ⟨hreq, hlast⟩ := h.records c r hc
        symm
        simp only [Option.map_some', Option.getD_some, Option.map_none', Option.getD_none,
          List.filter_nil, List.filter_eq_nil_iff, decide_eq_true_eq, not_lt]
        intro s hs
        have := hreq s hs
        push_cast at hold
        by_contra hlt
        push_neg at hlt
        linarith
      · rfl
  · simp only [RateLimiter.cleanup] at hr
    rcases hc : rl.clients c with _ | r'
    · simp [hc] at hr
    · simp only [hc] at hr
      split at hr
      · cases hr
      · cases hr; exact h.records c _ hc

theorem Agrees.client (h : Agrees rl accepted now) (c : String) :
    (∀ s ∈ ((rl.clients c).getD ⟨[], now⟩).requests, s ≤ ((rl.clients c).getD ⟨[], now⟩).lastRequest) ∧
      ((rl.clients c).getD ⟨[], now⟩).lastRequest ≤ now := by
  rcases hc : rl.clients c with _ | r
  · simp
  · exact h.records c r hc

theorem requests_getD (o : Option ClientRecord) (now : ℚ) :
    (o.getD ⟨[], now⟩).requests = (o.map (·.requests)).getD [] := by
  cases o <;> rfl

/-- One call once any cleanup is done: the limiter answers as `admits` does, and agrees with the
accepted calls after it. -/
theorem Agrees.allowAfterCleanup (h : Agrees rl accepted now) (c : String) :
    (rl.allowAfterCleanup c now).1 = admits rl.maxRequests rl.windowSeconds accepted c now ∧
      Agrees (rl.allowAfterCleanup c now).2
        (record rl.maxRequests rl.windowSeconds accepted (c, now)) now := by
  have hwin : (((rl.clients c).getD ⟨[], now⟩).requests.filter fun s => s > now - rl.windowSeconds) =
      (timesOf accepted c).filter fun s => s > now - rl.windowSeconds := by
    rw [requests_getD]; exact h.stored c now le_rfl
  have hcount := windowCount_eq (w := rl.windowSeconds) h.past c
  obtain ⟨hreq, hlast⟩ := h.client c
  simp only [RateLimiter.allowAfterCleanup, admits, record]
  split
  · rename_i hge
    rw [hwin, ← hcount] at hge
    have hn : ¬ ((windowCount rl.windowSeconds accepted c now : Int) < rl.maxRequests) := by omega
    simp only [hn, decide_False, Bool.false_eq_true, if_false]
    refine ⟨trivial, h.past, fun c' t ht => ?_, fun c' r hr => ?_⟩
    · simp only [storedOf, Function.update_apply]
      split
      · subst_vars; simp only [Option.map_some', Option.getD_some]
        rw [hwin, filter_window_of_le ht]
      · exact h.stored c' t ht
    · simp only [Function.update_apply] at hr
      split at hr
      · cases hr
        exact ⟨fun s hs => hreq s (List.mem_filter.mp hs).1, hlast⟩
      · exact h.records c' r hr
  · rename_i hlt
    rw [hwin, ← hcount] at hlt
    have hy : (windowCount rl.windowSeconds accepted c now : Int) < rl.maxRequests := by omega
    simp only [hy, decide_True, if_true]
    refine ⟨trivial, fun a ha => ?_, fun c' t ht => ?_, fun c' r hr => ?_⟩
    · rcases List.mem_append.mp ha with ha | ha
      · exact h.past a ha
      · rw [List.mem_singleton.mp ha]
    · simp only [storedOf, Function.update_apply, timesOf_append]
      split
      · subst_vars
        simp only [Option.map_some', Option.getD_some, if_true, List.filter_append]
        rw [hwin, filter_window_of_le ht]
      · rename_i hne
        rw [if_neg (Ne.symm hne), List.append_nil]
        exact h.stored c' t ht
    · simp only [Function.update_apply] at hr
      split at hr
      · cases hr
        refine ⟨fun s hs => ?_, le_rfl⟩
        rcases List.mem_append.mp hs with hs | hs
        · exact (hreq s (List.mem_filter.mp hs).1).trans hlast
        · rw [List.mem_singleton.mp hs]
      · exact (h.records c' r hr).imp_right fun hr' => hr'

section Frame

variable (rl : RateLimiter) (c : String) (now : ℚ)

@[simp] theorem allowAfterCleanup_maxRequests :
    (rl.allowAfterCleanup c now).2.maxRequests = rl.maxRequests := by
  simp only [RateLimiter.allowAfterCleanup]; split <;> rfl
@[simp] theorem allowAfterCleanup_windowSeconds :
    (rl.allowAfterCleanup c now).2.windowSeconds = rl.windowSeconds := by
  simp only [RateLimiter.allowAfterCleanup]; split <;> rfl
@[simp] theorem allow_maxRequests : (rl.allow c now).2.maxRequests = rl.maxRequests := by
  unfold allow; split <;> simp
@[simp] theorem allow_windowSeconds : (rl.allow c now).2.windowSeconds = rl.windowSeconds := by
  unfold allow; split <;> simp

end Frame

/-- One call at a time `now` no earlier than the calls before it, with or without the cleanup. -/
theorem Agrees.allow (h : Agrees rl accepted now) {t : ℚ} (ht : now ≤ t) (c : String) :
    (rl.allow c t).1 = admits rl.maxRequests rl.windowSeconds accepted c t ∧
      Agrees (rl.allow c t).2 (record rl.maxRequests rl.windowSeconds accepted (c, t)) t := by
  unfold RateLimiter.allow
  split
  · simpa using (h.mono ht).cleanup.allowAfterCleanup c
  · exact (h.mono ht).allowAfterCleanup c

/-- Along calls with non-decreasing times the limiter answers as `admits` does. -/
theorem Agrees.answers (h : Agrees rl accepted now) (calls : List (String × ℚ))
    (hc : (now :: calls.map Prod.snd).Chain' (· ≤ ·)) :
    rl.answers calls = specAnswers rl.maxRequests rl.windowSeconds accepted calls := by
  induction calls generalizing rl accepted now with
  | nil => rfl
  | cons call calls ih =>
      obtain ⟨c, t⟩ := call
      rw [List.map_cons, List.chain'_cons] at hc
      obtain ⟨hans, hnext⟩ := h.allow hc.1 c
      rw [RateLimiter.answers, specAnswers, hans, ih hnext hc.2, allow_maxRequests, allow_windowSeconds]

end RateLimiter

/-! ## No window holds more than `max_requests` accepted calls -/

/-- A window of `T` at or after every accepted call holds at most what the window of the last of them
held. -/
theorem windowCount_le_of_le {w : Int} {accepted : List (String × ℚ)} {now T : ℚ}
    (hpast : ∀ a ∈ accepted, a.2 ≤ now) (hT : now ≤ T) (c : String) :
    windowCount w accepted c T ≤ windowCount w accepted c now := by
  have hnow : accepted.filter (fun a => a.1 = c ∧ T - w < a.2 ∧ a.2 ≤ T) =
      accepted.filter fun a => (a.1 = c ∧ T - w < a.2 ∧ a.2 ≤ T) ∧ a.2 ≤ now :=
    List.filter_congr fun a ha => by simp [hpast a ha]
  rw [windowCount, hnow]
  refine (List.monotone_filter_right accepted fun a ha => ?_).length_le
  simp only [decide_eq_true_eq] at ha ⊢
  exact ⟨ha.1.1, by linarith [ha.1.2.1], ha.2⟩

theorem windowCount_record_le {max w : Int} {accepted : List (String × ℚ)} {now : ℚ}
    (hpast : ∀ a ∈ accepted, a.2 ≤ now) (hbound : ∀ c T, windowCount w accepted c T ≤ max.toNat)
    (c c' : String) (T : ℚ) : windowCount w (record max w accepted (c, now)) c' T ≤ max.toNat := by
  unfold record
  split
  · rename_i hadm
    simp only [admits, decide_eq_true_eq] at hadm
    rw [windowCount, List.filter_append, List.length_append, ← windowCount]
    by_cases hin : c = c' ∧ T - w < now ∧ now ≤ T
    · rw [List.filter_cons_of_pos (by simpa using hin), List.filter_nil, List.length_singleton]
      obtain ⟨rfl, -, hT⟩ := hin
      have := windowCount_le_of_le (w := w) hpast hT c
      omega
    · rw [List.filter_cons_of_neg (by simpa using hin), List.filter_nil, List.length_nil]
      exact hbound c' T
  · exact hbound c' T

theorem windowCount_acceptedAfter_le {max w : Int} (calls : List (String × ℚ)) :
    ∀ {accepted : List (String × ℚ)} {now : ℚ}, (∀ a ∈ accepted, a.2 ≤ now) →
      (∀ c T, windowCount w accepted c T ≤ max.toNat) → (now :: calls.map Prod.snd).Chain' (· ≤ ·) →
      ∀ c T, windowCount w (acceptedAfter max w accepted calls) c T ≤ max.toNat := by
  induction calls with
  | nil => exact fun _ hbound _ => hbound
  | cons call calls ih =>
      intro accepted now hpast hbound hc
      obtain ⟨c, t⟩ := call
      rw [List.map_cons, List.chain'_cons] at hc
      have hpast' : ∀ a ∈ accepted, a.2 ≤ t := fun a ha => (hpast a ha).trans hc.1
      refine ih (fun a ha => ?_) (windowCount_record_le hpast' hbound c) hc.2
      unfold record at ha
      split at ha
      · rcases List.mem_append.mp ha with ha | ha
        · exact hpast' a ha
        · rw [List.mem_singleton.mp ha]
      · exact hpast' a ha

/-- The calls among `calls` whose answer in `answers` is yes. -/
def acceptedCalls (calls : List (String × ℚ)) (answers : List Bool) : List (String × ℚ) :=
  ((calls.zip answers).filter (·.2)).map (·.1)

theorem acceptedCalls_specAnswers (max w : Int) (calls : List (String × ℚ)) :
    ∀ accepted, accepted ++ acceptedCalls calls (specAnswers max w accepted calls) =
      acceptedAfter max w accepted calls := by
  induction calls with
  | nil => intro; simp [acceptedCalls, specAnswers, acceptedAfter]
  | cons call calls ih =>
      intro accepted
      have hstep : acceptedAfter max w accepted (call :: calls) =
          acceptedAfter max w (record max w accepted call) calls := rfl
      rw [hstep, ← ih, specAnswers]
      unfold record
      split <;> rename_i hadm <;> simp [acceptedCalls, hadm]

theorem exists_chain_head {calls : List (String × ℚ)} (h : (calls.map Prod.snd).Chain' (· ≤ ·)) :
    ∃ now, (now :: calls.map Prod.snd).Chain' (· ≤ ·) := by
  cases calls with
  | nil => exact ⟨0, List.chain'_singleton _⟩
  | cons call calls => exact ⟨call.2, List.chain'_cons.mpr ⟨le_rfl, h⟩⟩

open RateLimiter in
/-- **The limiter is a sliding window.**  For every `RateLimiter(max_requests, window_seconds)` and
every sequence of calls `allow(client, t)` with non-decreasing times, each call is accepted exactly
when fewer than `max_requests` earlier accepted calls of its client lie in `(t - window_seconds, t]`;
the answers are the same whatever the cleanup interval; and no half-open window of length
`window_seconds` holds more than `max_requests` accepted calls of one client. -/
theorem rate_limiter_sliding_window (maxRequests windowSeconds : Int) (t₀ : ℚ)
    {calls : List (String × ℚ)} (hsorted : (calls.map Prod.snd).Chain' (· ≤ ·)) :
    (init maxRequests windowSeconds t₀).answers calls = specAnswers maxRequests windowSeconds [] calls ∧
      (∀ interval : Int, { init maxRequests windowSeconds t₀ with cleanupInterval := interval }.answers
        calls = (init maxRequests windowSeconds t₀).answers calls) ∧
      ∀ c T, windowCount windowSeconds
        (acceptedCalls calls ((init maxRequests windowSeconds t₀).answers calls)) c T ≤
          maxRequests.toNat := by
  obtain ⟨now, hc⟩ := exists_chain_head hsorted
  have hspec := (@Agrees.noClients (init maxRequests windowSeconds t₀) (fun _ => rfl) now).answers
    calls hc
  refine ⟨hspec, fun interval => ?_, fun c T => ?_⟩
  · rw [hspec]
    exact (@Agrees.noClients { init maxRequests windowSeconds t₀ with cleanupInterval := interval }
      (fun _ => rfl) now).answers calls hc
  · rw [hspec, ← List.nil_append (acceptedCalls _ _), acceptedCalls_specAnswers]
    exact windowCount_acceptedAfter_le calls (fun _ h => absurd h (List.not_mem_nil _))
      (fun _ _ => Nat.zero_le _) hc c T

/-- Three calls: client `a` at `0` and `1`, client `b` at `1`. -/
def threeCalls : List (String × ℚ) := [("a", 0), ("a", 1), ("b", 1)]

theorem rate_limiter_sliding_window_threeCalls :
    (threeCalls.map Prod.snd).Chain' (· ≤ ·) ∧
      ((RateLimiter.init 1 10 0).answers threeCalls = specAnswers 1 10 [] threeCalls ∧
        (∀ interval : Int, { RateLimiter.init 1 10 0 with cleanupInterval := interval }.answers
          threeCalls = (RateLimiter.init 1 10 0).answers threeCalls) ∧
        ∀ c T, windowCount 10 (acceptedCalls threeCalls ((RateLimiter.init 1 10 0).answers threeCalls))
          c T ≤ (1 : Int).toNat) :=
  have h : (threeCalls.map Prod.snd).Chain' (· ≤ ·) := by
    simp only [threeCalls, List.map_cons, List.map_nil, List.chain'_cons, List.chain'_singleton]
    norm_num
  ⟨h, rate_limiter_sliding_window 1 10 0 h⟩

end Security
end Tkkube
