import Mathlib.Algebra.Order.Ring.Int
import Mathlib.Logic.Function.Basic
import Ghostport.Lib.Machine
import Ghostport.Lib.SlidingWindow
import Ghostport.Net.Addr

/-!
# The handshake limiter (`crates/ghostport-core/src/ratelimit.rs`)

A global semaphore of `MAX_CONCURRENT_HANDSHAKES` permits and, for each source
IP, a queue of the times of its recent attempts.

Results:
* `Tracks.recordAttempt`: one locked block of `try_acquire` keeps each queue a
  window of the full history of recorded attempts, and lets a call pass exactly
  if fewer than `MAX_ATTEMPTS_PER_WINDOW` of them lie in the last `WINDOW`.
* `limiter_tracks`, `limiter_conserves`: both facts over every sequence of
  calls and permit drops.
* `limiter_local`: the per-IP part of the state after a run depends on that
  IP's calls only.
-/

namespace Ghostport.Core

open Ghostport.Lib Ghostport.Net

/-! ## Model -/

/-- `Instant`, in nanoseconds. On Linux the seconds are a signed number, so
    `Instant::now() - WINDOW` does not underflow. -/
abbrev Instant := ℤ

def maxConcurrentHandshakes : ℕ := 64

def maxAttemptsPerWindow : ℕ := 10

/-- `WINDOW`, 60 s. -/
def window : Instant := 60 * 10 ^ 9

theorem window_nonneg : 0 ≤ window := by decide

/-- A permit of the semaphore. Dropping it gives it back. -/
structure OwnedSemaphorePermit where
  deriving DecidableEq, Repr

/-- `HandshakeLimiter` (lines 36-39): the permits left in the semaphore, and the
    map behind the lock. -/
structure HandshakeLimiter where
  concurrent : ℕ
  perIp : IpAddr → Option (List Instant)

namespace HandshakeLimiter

def new : HandshakeLimiter := { concurrent := maxConcurrentHandshakes, perIp := fun _ => none }

/-- `per_ip.entry(ip).or_default()`. -/
def attempts (l : HandshakeLimiter) (ip : IpAddr) : List Instant := (l.perIp ip).getD []

end HandshakeLimiter

/-- Lines 63-70 on the queue of one IP: prune, then refuse or push. `now` and
    `now'` are the two readings of the clock. -/
def checkAttempts (attempts : List Instant) (now now' : Instant) : Bool × List Instant :=
  let cutoff := now - window
  let attempts := attempts.dropWhile fun t => t < cutoff
  if attempts.length ≥ maxAttemptsPerWindow then (false, attempts)
  else (true, attempts ++ [now'])

namespace HandshakeLimiter

/-- The block of `try_acquire` that holds the lock (lines 60-71); `false` where
    it returns `None`. -/
def recordAttempt (l : HandshakeLimiter) (ip : IpAddr) (now now' : Instant) :
    Bool × HandshakeLimiter :=
  let r := checkAttempts (l.attempts ip) now now'
  (r.1, { l with perIp := Function.update l.perIp ip (some r.2) })

/-- `self.concurrent.clone().try_acquire_owned().ok()` (line 72). -/
def tryAcquireOwned (l : HandshakeLimiter) : Option OwnedSemaphorePermit × HandshakeLimiter :=
  if l.concurrent = 0 then (none, l)
  else (some {}, { l with concurrent := l.concurrent - 1 })

/-- `HandshakeLimiter::try_acquire` (lines 59-73). -/
def tryAcquire (l : HandshakeLimiter) (ip : IpAddr) (now now' : Instant) :
    Option OwnedSemaphorePermit × HandshakeLimiter :=
  match l.recordAttempt ip now now' with
  | (false, l) => (none, l)
  | (true, l) => l.tryAcquireOwned

/-- A permit is dropped. -/
def dropPermit (l : HandshakeLimiter) : HandshakeLimiter :=
  { l with concurrent := l.concurrent + 1 }

@[simp] theorem attempts_new (ip : IpAddr) : new.attempts ip = [] := rfl

@[simp] theorem attempts_dropPermit (l : HandshakeLimiter) (ip : IpAddr) :
    l.dropPermit.attempts ip = l.attempts ip := rfl

@[simp] theorem attempts_tryAcquireOwned (l : HandshakeLimiter) (ip : IpAddr) :
    l.tryAcquireOwned.2.attempts ip = l.attempts ip := by
  unfold tryAcquireOwned
  split <;> rfl

@[simp] theorem concurrent_recordAttempt (l : HandshakeLimiter) (ip : IpAddr)
    (now now' : Instant) : (l.recordAttempt ip now now').2.concurrent = l.concurrent := rfl

@[simp] theorem attempts_recordAttempt_self (l : HandshakeLimiter) (ip : IpAddr)
    (now now' : Instant) :
    (l.recordAttempt ip now now').2.attempts ip = (checkAttempts (l.attempts ip) now now').2 := by
  simp [recordAttempt, attempts]

theorem attempts_recordAttempt_of_ne {l : HandshakeLimiter} {ip ip' : IpAddr} (h : ip' ≠ ip)
    (now now' : Instant) : (l.recordAttempt ip now now').2.attempts ip' = l.attempts ip' := by
  simp [recordAttempt, attempts, Function.update_of_ne h]

end HandshakeLimiter

/-! ## The history of recorded attempts -/

/-- All attempts `try_acquire` ever pushed, oldest first. -/
abbrev AttemptLog := List (IpAddr × Instant)

def AttemptLog.of (log : AttemptLog) (ip : IpAddr) : List Instant :=
  (log.filter fun e => e.1 = ip).map Prod.snd

theorem AttemptLog.of_append (log log' : AttemptLog) (ip : IpAddr) :
    AttemptLog.of (log ++ log') ip = AttemptLog.of log ip ++ AttemptLog.of log' ip := by
  simp [AttemptLog.of]

@[simp] theorem AttemptLog.of_singleton_self (ip : IpAddr) (t : Instant) :
    AttemptLog.of [(ip, t)] ip = [t] := by
  simp [AttemptLog.of]

theorem AttemptLog.of_singleton_of_ne {ip ip' : IpAddr} (h : ip' ≠ ip) (t : Instant) :
    AttemptLog.of [(ip, t)] ip' = [] := by
  simp [AttemptLog.of, Ne.symm h]

/-- The recorded attempts of `ip` that are not older than `now - WINDOW`. -/
def AttemptLog.recent (log : AttemptLog) (ip : IpAddr) (now : Instant) : ℕ :=
  (since (now - window) (log.of ip)).length

/-- The limiter at `clock`, with `log` the attempts it has recorded. -/
structure Tracks (l : HandshakeLimiter) (clock : Instant) (log : AttemptLog) : Prop where
  queue : ∀ ip, Window (clock - window) (log.of ip) (l.attempts ip)
  le_clock : ∀ ip, ∀ t ∈ log.of ip, t ≤ clock
  sparse : ∀ ip, Sparse window maxAttemptsPerWindow (log.of ip)

namespace Tracks

variable {l : HandshakeLimiter} {clock now now' : Instant} {log : AttemptLog}

theorem new (clock : Instant) : Tracks HandshakeLimiter.new clock [] :=
  ⟨fun _ => Window.nil _, by simp [AttemptLog.of], fun _ => Sparse.nil _ _⟩

theorem congr {l' : HandshakeLimiter} (h : Tracks l clock log)
    (ha : ∀ ip, l'.attempts ip = l.attempts ip) : Tracks l' clock log :=
  ⟨fun ip => ha ip ▸ h.queue ip, h.le_clock, h.sparse⟩

theorem dropPermit (h : Tracks l clock log) : Tracks l.dropPermit clock log :=
  h.congr fun _ => rfl

/-- Time passes. -/
theorem later {clock' : Instant} (h : Tracks l clock log) (hle : clock ≤ clock') :
    Tracks l clock' log :=
  ⟨fun ip => (h.queue ip).mono (sub_le_sub_right hle window),
    fun ip t ht => (h.le_clock ip t ht).trans hle, h.sparse⟩

theorem tryAcquireOwned (h : Tracks l clock log) : Tracks l.tryAcquireOwned.2 clock log :=
  h.congr l.attempts_tryAcquireOwned

/-- What the call's pruning leaves in the queue of its IP. -/
theorem pruned (h : Tracks l clock log) (hnow : clock ≤ now) (ip : IpAddr) :
    (l.attempts ip).dropWhile (fun t => t < now - window) = since (now - window) (log.of ip) :=
  ((h.queue ip).mono (sub_le_sub_right hnow window)).prune

/-- A call passes the per-IP check exactly if there is room in the window. -/
theorem passes_iff (h : Tracks l clock log) (hnow : clock ≤ now) (ip : IpAddr)
    (now' : Instant) :
    (l.recordAttempt ip now now').1 = true ↔ log.recent ip now < maxAttemptsPerWindow := by
  simp only [HandshakeLimiter.recordAttempt, checkAttempts, h.pruned hnow, AttemptLog.recent]
  split
  · simp; omega
  · simp; omega

theorem refuses_iff (h : Tracks l clock log) (hnow : clock ≤ now) (ip : IpAddr)
    (now' : Instant) :
    (l.recordAttempt ip now now').1 = false ↔ maxAttemptsPerWindow ≤ log.recent ip now := by
  rw [← Bool.not_eq_true, h.passes_iff hnow ip now', not_lt]

/-- The queue of the calling IP after the locked block. -/
theorem queue_recordAttempt (h : Tracks l clock log) (hnow : clock ≤ now) (hnow' : now ≤ now')
    (ip : IpAddr) :
    Window (now' - window)
      (if (l.recordAttempt ip now now').1 then log.of ip ++ [now'] else log.of ip)
      ((l.recordAttempt ip now now').2.attempts ip) := by
  have hw : Window (now - window) (log.of ip) (l.attempts ip) :=
    (h.queue ip).mono (sub_le_sub_right hnow window)
  have hle : ∀ t ∈ log.of ip, t ≤ now' := fun t ht => (h.le_clock ip t ht).trans (hnow.trans hnow')
  have hcut : now - window ≤ now' := (sub_le_self now window_nonneg).trans hnow'
  rw [HandshakeLimiter.attempts_recordAttempt_self]
  simp only [HandshakeLimiter.recordAttempt, checkAttempts, h.pruned hnow]
  split
  · simpa using hw.pruned.mono (sub_le_sub_right hnow' window)
  · simpa using (hw.pruned.push hle hcut).mono (sub_le_sub_right hnow' window)

/-- One locked block, with its two clock readings, keeps the limiter tracking the
    history of recorded attempts. -/
theorem recordAttempt (h : Tracks l clock log) (hnow : clock ≤ now) (hnow' : now ≤ now')
    (ip : IpAddr) :
    Tracks (l.recordAttempt ip now now').2 now'
      (if (l.recordAttempt ip now now').1 then log ++ [(ip, now')] else log) := by
  have hof : ∀ ip', AttemptLog.of
      (if (l.recordAttempt ip now now').1 then log ++ [(ip, now')] else log) ip' =
      if (l.recordAttempt ip now now').1 ∧ ip' = ip then log.of ip' ++ [now'] else log.of ip' := by
    intro ip'
    by_cases hip : ip' = ip
    · subst hip
      split <;> simp_all [AttemptLog.of_append]
    · split <;> simp [AttemptLog.of_append, AttemptLog.of_singleton_of_ne hip, hip]
  refine ⟨fun ip' => ?_, fun ip' => ?_, fun ip' => ?_⟩
  · rw [hof ip']
    by_cases hip : ip' = ip
    · subst hip
      simpa using h.queue_recordAttempt hnow hnow' ip'
    · rw [HandshakeLimiter.attempts_recordAttempt_of_ne hip]
      simpa [hip] using (h.queue ip').mono (sub_le_sub_right (hnow.trans hnow') window)
  · rw [hof ip']
    have hle : ∀ t ∈ log.of ip', t ≤ now' :=
      fun t ht => (h.le_clock ip' t ht).trans (hnow.trans hnow')
    split
    · intro t ht
      rcases List.mem_append.mp ht with ht | ht
      · exact hle t ht
      · exact (List.mem_singleton.mp ht).le
    · exact hle
  · rw [hof ip']
    split
    · rename_i hp
      obtain ⟨hp, rfl⟩ := hp
      exact (h.sparse ip').snoc hnow' ((h.passes_iff hnow ip' now').mp hp)
    · exact h.sparse ip'

end Tracks

/-! ## Sequences of calls and permit drops -/

inductive LimiterAction where
  | tryAcquire (ip : IpAddr) (now now' : Instant)
  | dropPermit

inductive LimiterEvent where
  | recorded (ip : IpAddr) (t : Instant)
  | granted (ip : IpAddr) (t : Instant)
  | refused (ip : IpAddr) (now : Instant)
  deriving DecidableEq

/-- The limiter between calls: with the permits handed out and not dropped yet,
    and the last reading of the clock. -/
structure LimiterState where
  limiter : HandshakeLimiter
  outstanding : ℕ
  clock : Instant

def LimiterState.start (clock : Instant) : LimiterState :=
  { limiter := HandshakeLimiter.new, outstanding := 0, clock := clock }

/-- One call, with clock readings that do not go back, or the drop of a permit
    somebody holds. -/
def limiterStep (s : LimiterState) : LimiterAction → Option (LimiterState × List LimiterEvent)
  | .tryAcquire ip now now' =>
    if s.clock ≤ now ∧ now ≤ now' then
      let recorded := if (s.limiter.recordAttempt ip now now').1 then [.recorded ip now'] else []
      match s.limiter.tryAcquire ip now now' with
      | (some _, l) =>
        some (⟨l, s.outstanding + 1, now'⟩, recorded ++ [.granted ip now'])
      | (none, l) => some (⟨l, s.outstanding, now'⟩, recorded ++ [.refused ip now])
    else none
  | .dropPermit =>
    if s.outstanding = 0 then none
    else some (⟨s.limiter.dropPermit, s.outstanding - 1, s.clock⟩, [])

/-- The recorded attempts of a run. -/
def recordedIn (tr : List LimiterEvent) : AttemptLog :=
  tr.filterMap fun
    | .recorded ip t => some (ip, t)
    | _ => none

/-- The times of the permits granted to `ip`. -/
def grantedIn (tr : List LimiterEvent) (ip : IpAddr) : List Instant :=
  tr.filterMap fun
    | .granted ip' t => if ip' = ip then some t else none
    | _ => none

/-- The calls of `ip`, as their clock readings. -/
def callsOf (ip : IpAddr) (as : List LimiterAction) : List (Instant × Instant) :=
  as.filterMap fun
    | .tryAcquire ip' now now' => if ip' = ip then some (now, now') else none
    | .dropPermit => none

theorem recordedIn_append (tr tr' : List LimiterEvent) :
    recordedIn (tr ++ tr') = recordedIn tr ++ recordedIn tr' :=
  List.filterMap_append ..

theorem grantedIn_append (tr tr' : List LimiterEvent) (ip : IpAddr) :
    grantedIn (tr ++ tr') ip = grantedIn tr ip ++ grantedIn tr' ip :=
  List.filterMap_append ..

theorem callsOf_append (ip : IpAddr) (as bs : List LimiterAction) :
    callsOf ip (as ++ bs) = callsOf ip as ++ callsOf ip bs :=
  List.filterMap_append ..

/-- Everything a step can do. -/
theorem limiterStep_cases {s s' : LimiterState} {a : LimiterAction} {es : List LimiterEvent}
    (h : limiterStep s a = some (s', es)) :
    (∃ ip now now', a = .tryAcquire ip now now' ∧ s.clock ≤ now ∧ now ≤ now' ∧
      s'.clock = now' ∧
      ((s.limiter.recordAttempt ip now now').1 = false ∧
          s'.limiter = (s.limiter.recordAttempt ip now now').2 ∧
          s'.outstanding = s.outstanding ∧ es = [.refused ip now] ∨
        (s.limiter.recordAttempt ip now now').1 = true ∧
          s'.limiter = (s.limiter.recordAttempt ip now now').2.tryAcquireOwned.2 ∧
          (s.limiter.concurrent = 0 ∧ s'.outstanding = s.outstanding ∧
              es = [.recorded ip now', .refused ip now] ∨
            s.limiter.concurrent ≠ 0 ∧ s'.outstanding = s.outstanding + 1 ∧
              es = [.recorded ip now', .granted ip now']))) ∨
    (a = .dropPermit ∧ s.outstanding ≠ 0 ∧ s'.limiter = s.limiter.dropPermit ∧
      s'.outstanding = s.outstanding - 1 ∧ s'.clock = s.clock ∧ es = []) := by
  cases a with
  | tryAcquire ip now now' =>
    left
    simp only [limiterStep] at h
    split at h
    · rename_i hclock
      refine ⟨ip, now, now', rfl, hclock.1, hclock.2, ?_⟩
      simp only [HandshakeLimiter.tryAcquire] at h
      rcases hr : s.limiter.recordAttempt ip now now' with ⟨_ | _, l⟩
      · rw [hr] at h
        cases h
        simp
      · have hconc : l.concurrent = s.limiter.concurrent := by
          rw [← HandshakeLimiter.concurrent_recordAttempt s.limiter ip now now', hr]
        rw [hr] at h
        simp only [HandshakeLimiter.tryAcquireOwned] at h ⊢
        by_cases h0 : l.concurrent = 0
        · simp only [h0, if_true] at h
          cases h
          simp [h0, ← hconc]
        · simp only [h0, if_false] at h
          cases h
          simp [h0, ← hconc]
    · cases h
  | dropPermit =>
    right
    simp only [limiterStep] at h
    split at h
    · cases h
    · cases h
      simp_all

theorem limiterStep_tracks {s s' : LimiterState} {a : LimiterAction} {tr es : List LimiterEvent}
    (hs : Tracks s.limiter s.clock (recordedIn tr)) (h : limiterStep s a = some (s', es)) :
    Tracks s'.limiter s'.clock (recordedIn (tr ++ es)) := by
  rw [recordedIn_append]
  obtain ⟨ip, now, now', -, hnow, hnow', hclock, hcase⟩ | ⟨-, -, hl, -, hclock, rfl⟩ :=
    limiterStep_cases h
  · have ht := hs.recordAttempt hnow hnow' ip
    rw [hclock]
    obtain ⟨hr, hl, -, rfl⟩ | ⟨hr, hl, ⟨-, -, rfl⟩ | ⟨-, -, rfl⟩⟩ := hcase
    · simpa [hl, hr, recordedIn] using ht
    · simpa [hl, hr, recordedIn] using (Tracks.tryAcquireOwned ht)
    · simpa [hl, hr, recordedIn] using (Tracks.tryAcquireOwned ht)
  · simpa [hl, hclock, recordedIn] using hs.dropPermit

variable {C : LimiterState → LimiterAction → Prop} {t₀ : Instant} {as : List LimiterAction}
  {s : LimiterState} {tr : List LimiterEvent}

theorem limiter_tracks (h : Run limiterStep C (.start t₀) as s tr) :
    Tracks s.limiter s.clock (recordedIn tr) :=
  h.invariant (I := fun s tr => Tracks s.limiter s.clock (recordedIn tr)) (Tracks.new t₀)
    fun _ _ _ _ _ hs _ hst => limiterStep_tracks hs hst

/-- No permit is lost or made up. -/
theorem limiter_conserves (h : Run limiterStep C (.start t₀) as s tr) :
    s.limiter.concurrent + s.outstanding = maxConcurrentHandshakes := by
  refine h.invariant
    (I := fun s _ => s.limiter.concurrent + s.outstanding = maxConcurrentHandshakes) rfl ?_
  intro s tr a s' es hs _ hst
  obtain ⟨ip, now, now', -, -, -, -, hcase⟩ | ⟨-, h0, hl, ho, -, -⟩ := limiterStep_cases hst
  · obtain ⟨-, hl, ho, -⟩ | ⟨-, hl, ⟨hc, ho, -⟩ | ⟨hc, ho, -⟩⟩ := hcase
    · simpa [hl, ho] using hs
    · simpa [hl, ho, HandshakeLimiter.tryAcquireOwned, hc] using hs
    · simp only [hl, ho, HandshakeLimiter.tryAcquireOwned,
        HandshakeLimiter.concurrent_recordAttempt, hc, if_false]
      omega
  · simp only [hl, ho, HandshakeLimiter.dropPermit]
    omega

/-- Granted permits are among the recorded attempts. -/
theorem limiter_granted_sublist (h : Run limiterStep C (.start t₀) as s tr) (ip : IpAddr) :
    (grantedIn tr ip).Sublist ((recordedIn tr).of ip) := by
  refine h.invariant
    (I := fun _ tr => (grantedIn tr ip).Sublist ((recordedIn tr).of ip)) (by simp [grantedIn]) ?_
  intro s tr a s' es hs _ hst
  rw [grantedIn_append, recordedIn_append, AttemptLog.of_append]
  apply hs.append
  obtain ⟨ip', now, now', -, -, -, -, hcase⟩ | ⟨-, -, -, -, -, rfl⟩ := limiterStep_cases hst
  · obtain ⟨-, -, -, rfl⟩ | ⟨-, -, ⟨-, -, rfl⟩ | ⟨-, -, rfl⟩⟩ := hcase
    · simp [grantedIn, recordedIn, AttemptLog.of]
    · simp [grantedIn]
    · by_cases hip : ip' = ip <;> simp [grantedIn, recordedIn, AttemptLog.of, hip]
  · simp [grantedIn, recordedIn, AttemptLog.of]

/-- The queue of `ip` is computed from its own calls. -/
theorem limiter_local (h : Run limiterStep C (.start t₀) as s tr) (ip : IpAddr) :
    s.limiter.attempts ip =
      (callsOf ip as).foldl (fun q c => (checkAttempts q c.1 c.2).2) [] := by
  induction h with
  | nil => rfl
  | @snoc as s s' tr es a _ _ hst ih =>
    rw [callsOf_append, List.foldl_append, ← ih]
    obtain ⟨ip', now, now', rfl, -, -, -, hcase⟩ | ⟨rfl, -, hl, -, -, -⟩ := limiterStep_cases hst
    · have hl : s'.limiter.attempts ip =
          (s.limiter.recordAttempt ip' now now').2.attempts ip := by
        obtain ⟨-, hl, -⟩ | ⟨-, hl, -⟩ := hcase
        · rw [hl]
        · rw [hl, HandshakeLimiter.attempts_tryAcquireOwned]
      rw [hl]
      by_cases hip : ip' = ip
      · subst hip
        simp [callsOf]
      · simp [callsOf, hip, HandshakeLimiter.attempts_recordAttempt_of_ne (Ne.symm hip)]
    · simp [callsOf, hl]

end Ghostport.Core
