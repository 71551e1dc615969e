import Mathlib.Data.List.Induction
import Ghostport.Firewall.Daemon
import Ghostport.Lib.SlidingWindow

/-!
# When the daemon bans

The tracker keeps a queue for each address, drops from its front what is older than the window,
and tells when the queue has just as many entries as the threshold.

Results:
* `window_failures`: after any calls, the queue is a window of the failures since the last `forget`.
* `record_iff`: the queue reaches the threshold exactly if the failures in the window do.
* `bans_exactly`: the same over the runs of the daemon.
-/

namespace Ghostport.Firewall

open Ghostport.Core Ghostport.Lib Ghostport.Net

/-! ## Calls of the tracker -/

inductive TrackerCall where
  | record (ip : IpAddr) (now : Instant)
  | forget (ip : IpAddr)
  deriving DecidableEq

def TrackerCall.ip : TrackerCall → IpAddr
  | .record ip _ | .forget ip => ip

namespace FailureTracker

variable {t : FailureTracker} {ip ip' : IpAddr} {now : Instant}

/-- The queue of an address. -/
def failures (t : FailureTracker) (ip : IpAddr) : List Instant := (t.history ip).getD []

def call (t : FailureTracker) : TrackerCall → FailureTracker
  | .record ip now => (t.record ip now).2
  | .forget ip => t.forget ip

def after (t : FailureTracker) (calls : List TrackerCall) : FailureTracker := calls.foldl call t

@[simp] theorem window_call (t : FailureTracker) (c : TrackerCall) :
    (t.call c).window = t.window := by
  cases c <;> rfl

@[simp] theorem threshold_call (t : FailureTracker) (c : TrackerCall) :
    (t.call c).threshold = t.threshold := by
  cases c <;> rfl

@[simp] theorem window_after (t : FailureTracker) (calls : List TrackerCall) :
    (t.after calls).window = t.window := by
  induction calls generalizing t with
  | nil => rfl
  | cons c calls ih => exact (ih (t.call c)).trans (t.window_call c)

@[simp] theorem threshold_after (t : FailureTracker) (calls : List TrackerCall) :
    (t.after calls).threshold = t.threshold := by
  induction calls generalizing t with
  | nil => rfl
  | cons c calls ih => exact (ih (t.call c)).trans (t.threshold_call c)

theorem after_concat (t : FailureTracker) (calls : List TrackerCall) (c : TrackerCall) :
    t.after (calls ++ [c]) = (t.after calls).call c :=
  List.foldl_append ..

/-- What is older than the window is dropped from the front. -/
theorem failures_record (hwindow : 0 ≤ t.window) :
    (t.record ip now).2.failures ip =
      (t.failures ip ++ [now]).dropWhile fun front => front < now - t.window := by
  have hold : ∀ front : Instant, max 0 (now - front) > t.window ↔ front < now - t.window := by
    intro front
    rw [gt_iff_lt, lt_max_iff, lt_sub_comm]
    exact or_iff_right (not_lt.mpr hwindow)
  simp only [record, failures, Function.update_self, Option.getD_some, hold]

theorem failures_record_of_ne (h : ip' ≠ ip) :
    (t.record ip now).2.failures ip' = t.failures ip' := by
  simp [record, failures, Function.update_of_ne h]

theorem failures_forget : (t.forget ip).failures ip = [] := by
  simp [forget, failures]

theorem failures_forget_of_ne (h : ip' ≠ ip) : (t.forget ip).failures ip' = t.failures ip' := by
  simp [forget, failures, Function.update_of_ne h]

theorem failures_call_of_ne {c : TrackerCall} (h : ip ≠ c.ip) :
    (t.call c).failures ip = t.failures ip := by
  cases c with
  | record ip' now => exact failures_record_of_ne h
  | forget ip' => exact failures_forget_of_ne h

/-- A call looks at one queue only. -/
theorem failures_call_congr {t' : FailureTracker} (hw : t.window = t'.window)
    (h : t.failures ip = t'.failures ip) (c : TrackerCall) :
    (t.call c).failures ip = (t'.call c).failures ip := by
  by_cases hip : ip = c.ip
  · subst hip
    cases c with
    | record ip now =>
      simp only [call, record, TrackerCall.ip, failures, Function.update_self] at h ⊢
      rw [h, hw]
    | forget ip => exact failures_forget.trans failures_forget.symm
  · rw [failures_call_of_ne hip, failures_call_of_ne hip, h]

/-- The queue has just as many entries as the threshold. -/
theorem record_eq_true : (t.record ip now).1 = true ↔
    ((t.record ip now).2.failures ip).length = t.threshold := by
  simp [record, failures]

end FailureTracker

/-! ## The failures since an address was forgotten -/

def failuresStep (ip : IpAddr) (failures : List Instant) : TrackerCall → List Instant
  | .record ip' now => if ip' = ip then failures ++ [now] else failures
  | .forget ip' => if ip' = ip then [] else failures

/-- The times at which failures of an address were recorded since it was forgotten last. -/
def failuresOf (ip : IpAddr) (calls : List TrackerCall) : List Instant :=
  calls.foldl (failuresStep ip) []

/-- The times of all recorded failures. -/
def timesOf (calls : List TrackerCall) : List Instant :=
  calls.filterMap fun
    | .record _ now => some now
    | .forget _ => none

theorem failuresOf_concat (ip : IpAddr) (calls : List TrackerCall) (c : TrackerCall) :
    failuresOf ip (calls ++ [c]) = failuresStep ip (failuresOf ip calls) c :=
  List.foldl_append ..

theorem failuresOf_concat_of_ne {ip : IpAddr} {c : TrackerCall} (h : ip ≠ c.ip)
    (calls : List TrackerCall) : failuresOf ip (calls ++ [c]) = failuresOf ip calls := by
  rw [failuresOf_concat]
  cases c with
  | record ip' now => exact if_neg (Ne.symm h)
  | forget ip' => exact if_neg (Ne.symm h)

theorem timesOf_append (calls calls' : List TrackerCall) :
    timesOf (calls ++ calls') = timesOf calls ++ timesOf calls' :=
  List.filterMap_append ..

theorem mem_timesOf_of_failuresOf {ip : IpAddr} {calls : List TrackerCall} :
    ∀ now ∈ failuresOf ip calls, now ∈ timesOf calls := by
  induction calls using List.reverseRecOn with
  | nil => simp [failuresOf]
  | append_singleton calls c ih =>
    intro now hnow
    rw [failuresOf_concat] at hnow
    rw [timesOf_append, List.mem_append]
    cases c with
    | record ip' at' =>
      simp only [failuresStep] at hnow
      split at hnow
      · rcases List.mem_append.mp hnow with h | h
        · exact .inl (ih now h)
        · exact .inr (by simpa [timesOf] using h)
      · exact .inl (ih now hnow)
    | forget ip' =>
      simp only [failuresStep] at hnow
      split at hnow
      · cases hnow
      · exact .inl (ih now hnow)

/-! ## The queues -/

section

variable {t : FailureTracker} {ip : IpAddr} {now : Instant} {calls : List TrackerCall}

/-- After calls at times that do not go back, each queue is a window of the failures. -/
theorem window_failures (hnew : ∀ ip, t.failures ip = []) (hwindow : 0 ≤ t.window)
    (htimes : (timesOf calls).Pairwise (· ≤ ·)) (hnow : ∀ at' ∈ timesOf calls, at' ≤ now) :
    Window (now - t.window) (failuresOf ip calls) ((t.after calls).failures ip) := by
  induction calls using List.reverseRecOn generalizing now with
  | nil =>
    rw [FailureTracker.after, List.foldl_nil, hnew]
    exact Window.nil _
  | append_singleton calls c ih =>
    rw [timesOf_append] at htimes hnow
    obtain ⟨hsorted, -, hlast⟩ := List.pairwise_append.mp htimes
    have hbefore : ∀ at' ∈ timesOf calls, at' ≤ now :=
      fun at' h => hnow at' (List.mem_append_left _ h)
    rw [FailureTracker.after_concat]
    by_cases hip : ip = c.ip
    · rw [failuresOf_concat]
      cases c with
      | record ip' at' =>
        obtain rfl : ip = ip' := hip
        have hle : ∀ earlier ∈ timesOf calls, earlier ≤ at' :=
          fun earlier h => hlast earlier h at' (by simp [timesOf])
        have hpushed := (ih hsorted hle).push
          (fun earlier h => hle earlier (mem_timesOf_of_failuresOf earlier h))
          (sub_le_self at' hwindow)
        have hcut : at' - t.window ≤ now - t.window :=
          sub_le_sub_right (hnow at' (List.mem_append_right _ (by simp [timesOf]))) _
        have hkept := hpushed.prune
        rw [FailureTracker.call, FailureTracker.failures_record (by simpa using hwindow),
          FailureTracker.window_after, hkept]
        simpa [failuresStep] using hpushed.pruned.mono hcut
      | forget ip' =>
        obtain rfl : ip = ip' := hip
        rw [FailureTracker.call, FailureTracker.failures_forget]
        simpa [failuresStep] using Window.nil _
    · rw [FailureTracker.failures_call_of_ne hip, failuresOf_concat_of_ne hip]
      exact ih hsorted hbefore

/-- The failure is the one that brings those of the address inside the window up to the
    threshold. -/
def Reaches (window : Instant) (threshold : ℕ) (failures : List Instant) (now : Instant) : Prop :=
  (since (now - window) failures).length < threshold ∧
    threshold ≤ (since (now - window) (failures ++ [now])).length

instance (window : Instant) (threshold : ℕ) (failures : List Instant) (now : Instant) :
    Decidable (Reaches window threshold failures now) :=
  inferInstanceAs (Decidable (_ ∧ _))

theorem record_iff (hnew : ∀ ip, t.failures ip = []) (hwindow : 0 ≤ t.window)
    (htimes : (timesOf (calls ++ [.record ip now])).Pairwise (· ≤ ·)) :
    ((t.after calls).record ip now).1 = true ↔
      Reaches t.window t.threshold (failuresOf ip calls) now := by
  rw [timesOf_append] at htimes
  obtain ⟨hsorted, -, hlast⟩ := List.pairwise_append.mp htimes
  have hle : ∀ earlier ∈ timesOf calls, earlier ≤ now :=
    fun earlier h => hlast earlier h now (by simp [timesOf])
  have hfailures : Window (now - t.window) (failuresOf ip calls) ((t.after calls).failures ip) :=
    window_failures hnew hwindow hsorted hle
  have hkept := (hfailures.push
    (fun earlier h => hle earlier (mem_timesOf_of_failuresOf earlier h))
    (sub_le_self now hwindow)).prune
  have hin : since (now - t.window) [now] = [now] := by
    simpa [since] using hwindow
  rw [FailureTracker.record_eq_true, FailureTracker.failures_record (by simpa using hwindow),
    FailureTracker.window_after, FailureTracker.threshold_after, hkept, Reaches, since_append, hin,
    List.length_append, List.length_singleton]
  omega

/-- The calls for other addresses never matter. -/
theorem failures_after_filter (t : FailureTracker) (ip : IpAddr) (calls : List TrackerCall) :
    (t.after (calls.filter fun c => c.ip = ip)).failures ip = (t.after calls).failures ip := by
  induction calls using List.reverseRecOn with
  | nil => rfl
  | append_singleton calls c ih =>
    rw [List.filter_append, FailureTracker.after_concat]
    by_cases hip : c.ip = ip
    · have hkeep : List.filter (fun c => decide (c.ip = ip)) [c] = [c] := by simp [hip]
      rw [hkeep, FailureTracker.after_concat]
      exact FailureTracker.failures_call_congr (by simp) ih c
    · have hdrop : List.filter (fun c => decide (c.ip = ip)) [c] = [] := by simp [hip]
      rw [hdrop, List.append_nil, ih, FailureTracker.failures_call_of_ne (Ne.symm hip)]

end

/-! ## The daemon -/

/-- The failures of the offences, and the ban attempts. -/
def callsIn (_ : FailureTracker) (r : Received) (es : List Event) : List TrackerCall :=
  (if r.offense = .handshakeFailed then [.record r.ip r.now] else []) ++
    es.filterMap fun e => e.target.map .forget

/-- The tracker of the daemon counts the failures since the last ban attempt, but for those of
    exempt addresses. -/
structure Counts (cfg : AppConfig) (tracker : FailureTracker) (calls : List TrackerCall) :
    Prop where
  window : tracker.window = cfg.tracker.window
  threshold : tracker.threshold = cfg.tracker.threshold
  exempt : ∀ ip, Exempt cfg ip → tracker.failures ip = []
  queue : ∀ ip, ¬ Exempt cfg ip → tracker.failures ip = (cfg.tracker.after calls).failures ip

namespace Counts

variable {cfg : AppConfig} {tracker tracker' : FailureTracker} {calls : List TrackerCall}

theorem call (h : Counts cfg tracker calls) {c : TrackerCall} (hexempt : ¬ Exempt cfg c.ip) :
    Counts cfg (tracker.call c) (calls ++ [c]) := by
  constructor
  · rw [FailureTracker.window_call, h.window]
  · rw [FailureTracker.threshold_call, h.threshold]
  · intro ip hip
    have hne : ip ≠ c.ip := by
      rintro rfl
      exact hexempt hip
    rw [FailureTracker.failures_call_of_ne hne, h.exempt ip hip]
  · intro ip hip
    rw [FailureTracker.after_concat]
    exact FailureTracker.failures_call_congr (by simp [h.window]) (h.queue ip hip) c

/-- A failure of an exempt address is not counted. -/
theorem uncounted (h : Counts cfg tracker calls) {c : TrackerCall} (hexempt : Exempt cfg c.ip) :
    Counts cfg tracker (calls ++ [c]) := by
  refine ⟨h.window, h.threshold, h.exempt, fun ip hip => ?_⟩
  have hne : ip ≠ c.ip := by
    rintro rfl
    exact hip hexempt
  rw [FailureTracker.after_concat, FailureTracker.failures_call_of_ne hne, h.queue ip hip]

theorem step (h : Counts cfg tracker calls) {r : Received} {es : List Event}
    (hst : daemonStep cfg tracker r = some (tracker', es)) :
    Counts cfg tracker' (calls ++ callsIn tracker r es) := by
  unfold callsIn
  cases daemonStep_cases hst with
  | isExempt hexempt hnone =>
    have hes : es.filterMap (fun e => e.target.map TrackerCall.forget) = [] :=
      List.filterMap_eq_nil_iff.mpr fun e he => by rw [hnone e he]; rfl
    rw [hes, List.append_nil]
    split
    · exact h.uncounted hexempt
    · rwa [List.append_nil]
  | limited hexempt hoffense =>
    have hforget := h.call (c := .forget r.ip) hexempt
    simpa [hoffense, banEvent_target, FailureTracker.call] using hforget
  | reached hexempt hoffense hreached =>
    have hforget := (h.call (c := .record r.ip r.now) hexempt).call (c := .forget r.ip) hexempt
    simpa [hoffense, banEvent_target, FailureTracker.call] using hforget
  | counted hexempt hoffense hreached =>
    have hrecord := h.call (c := .record r.ip r.now) hexempt
    simpa [hoffense, FailureTracker.call] using hrecord

end Counts

/-- The runs of the daemon, with what its tracker should count. -/
def CountedRun (cfg : AppConfig) (rs : List Received) (tracker : FailureTracker)
    (calls : List TrackerCall) : Prop :=
  Run (observe (daemonStep cfg) callsIn) Free cfg.tracker rs tracker calls

section

variable {cfg : AppConfig} {rs : List Received} {tracker tracker' : FailureTracker}
  {calls : List TrackerCall} {r : Received} {es : List Event}

theorem timesOf_callsIn (tracker : FailureTracker) (r : Received) (es : List Event) :
    (timesOf (callsIn tracker r es)).Sublist [r.now] := by
  have hforgets : timesOf (es.filterMap fun e => e.target.map TrackerCall.forget) = [] := by
    refine List.filterMap_eq_nil_iff.mpr fun c hc => ?_
    obtain ⟨e, -, he⟩ := List.mem_filterMap.mp hc
    obtain ⟨ip, -, rfl⟩ := Option.map_eq_some_iff.mp he
    rfl
  unfold callsIn
  rw [timesOf_append, hforgets, List.append_nil]
  split
  · exact List.Sublist.refl _
  · exact List.nil_sublist _

theorem counts_run (h : CountedRun cfg rs tracker calls) :
    Counts cfg tracker calls ∧ (timesOf calls).Sublist (rs.map fun r => r.now) := by
  induction h with
  | nil => exact ⟨⟨rfl, rfl, fun _ _ => rfl, fun _ _ => rfl⟩, List.nil_sublist _⟩
  | snoc _ _ hst ih =>
    obtain ⟨hcounts, hsub⟩ := ih
    obtain ⟨⟨tracker', es⟩, hstep, heq⟩ := Option.map_eq_some_iff.mp hst
    cases heq
    refine ⟨hcounts.step hstep, ?_⟩
    rw [timesOf_append, List.map_append]
    exact hsub.append (timesOf_callsIn _ _ _)

theorem exempt_unbanned (h : CountedRun cfg rs tracker calls)
    (hst : daemonStep cfg tracker r = some (tracker', es)) (hexempt : Exempt cfg r.ip) :
    tracker'.failures r.ip = [] ∧ ∀ e ∈ es, e.target = none := by
  have hempty := ((counts_run h).1.step hst).exempt r.ip hexempt
  cases daemonStep_cases hst with
  | isExempt _ hnone => exact ⟨hempty, hnone⟩
  | limited hnot _ | reached hnot _ _ | counted hnot _ _ => exact absurd hexempt hnot

/-- A failure leads to a ban attempt exactly if the queue reaches the threshold. -/
theorem attempt_iff (hst : daemonStep cfg tracker r = some (tracker', es))
    (hexempt : ¬ Exempt cfg r.ip) (hoffense : r.offense = .handshakeFailed) :
    (∃ e ∈ es, e.target = some r.ip) ↔ (tracker.record r.ip r.now).1 = true := by
  cases daemonStep_cases hst with
  | isExempt h _ => exact absurd h hexempt
  | limited _ h =>
    rw [hoffense] at h
    cases h
  | reached _ _ hreached => simp [hreached, banEvent_target]
  | counted _ _ hreached => simp [hreached]

theorem failure_attempts_iff (h : CountedRun cfg rs tracker calls)
    (htimes : ((rs ++ [r]).map fun r => r.now).Pairwise (· ≤ ·))
    (hst : daemonStep cfg tracker r = some (tracker', es)) (hexempt : ¬ Exempt cfg r.ip)
    (hoffense : r.offense = .handshakeFailed) :
    (∃ e ∈ es, e.target = some r.ip) ↔
      Reaches cfg.tracker.window cfg.threshold (failuresOf r.ip calls) r.now := by
  obtain ⟨hcounts, hsub⟩ := counts_run h
  have hsorted : (timesOf (calls ++ [.record r.ip r.now])).Pairwise (· ≤ ·) := by
    refine htimes.sublist ?_
    rw [timesOf_append, List.map_append]
    exact hsub.append (List.Sublist.refl _)
  have hwindow : 0 ≤ cfg.tracker.window := by
    unfold AppConfig.tracker FailureTracker.new
    positivity
  refine (attempt_iff hst hexempt hoffense).trans
    (Iff.trans ?_ (record_iff (fun _ => rfl) hwindow hsorted))
  have hqueue := FailureTracker.failures_call_congr (by simp [hcounts.window])
    (hcounts.queue r.ip hexempt) (.record r.ip r.now)
  simp only [FailureTracker.call] at hqueue
  rw [FailureTracker.record_eq_true, FailureTracker.record_eq_true, hqueue, hcounts.threshold,
    FailureTracker.threshold_after]

end

/-- The calls for other addresses never matter. -/
theorem record_filter (t : FailureTracker) (calls : List TrackerCall) (ip : IpAddr)
    (now : Instant) :
    ((t.after (calls.filter fun c => c.ip = ip)).record ip now).1 =
      ((t.after calls).record ip now).1 := by
  have hqueue := FailureTracker.failures_call_congr (by simp) (failures_after_filter t ip calls)
    (.record ip now)
  simp only [FailureTracker.call] at hqueue
  rw [Bool.eq_iff_iff, FailureTracker.record_eq_true, FailureTracker.record_eq_true, hqueue]
  simp

/-- The tracker fires for the failure that brings those of its address, since it was forgotten
    and inside the window, up to the threshold; other addresses do not matter. The daemon tries to
    ban for just these failures, and counts and bans no exempt address. -/
theorem bans_exactly :
    (∀ (window threshold : ℕ) (calls : List TrackerCall) (ip : IpAddr) (now : Instant),
      (timesOf (calls ++ [.record ip now])).Pairwise (· ≤ ·) →
      ((((FailureTracker.new window threshold).after calls).record ip now).1 = true ↔
        Reaches window threshold (failuresOf ip calls) now) ∧
      (((FailureTracker.new window threshold).after
        (calls.filter fun c => c.ip = ip)).record ip now).1 =
          (((FailureTracker.new window threshold).after calls).record ip now).1) ∧
    ∀ cfg rs tracker calls r tracker' es, CountedRun cfg rs tracker calls →
      daemonStep cfg tracker r = some (tracker', es) →
      ((rs ++ [r]).map fun r => r.now).Pairwise (· ≤ ·) →
      (Exempt cfg r.ip → tracker'.failures r.ip = [] ∧ ∀ e ∈ es, e.target = none) ∧
      (¬ Exempt cfg r.ip → r.offense = .handshakeFailed →
        ((∃ e ∈ es, e.target = some r.ip) ↔
          Reaches (cfg.windowSecs * 10 ^ 9) cfg.threshold (failuresOf r.ip calls) r.now)) := by
  constructor
  · intro window threshold calls ip now htimes
    exact ⟨record_iff (fun _ => rfl) (Int.natCast_nonneg window) htimes,
      record_filter _ calls ip now⟩
  · intro cfg rs tracker calls r tracker' es hrun hst hclock
    exact ⟨exempt_unbanned hrun hst, failure_attempts_iff hrun hclock hst⟩

/-! ### The default settings: five failures in ten minutes -/

def scanner : IpAddr := .v4 ⟨198, 51, 100, 7⟩

/-- A failure every two minutes, and one in between that is banned for at once. -/
def scans : List Received :=
  [⟨scanner, .handshakeFailed, 0, .ok ()⟩, ⟨scanner, .rateLimited, 10 ^ 9, .ok ()⟩,
    ⟨scanner, .handshakeFailed, 120 * 10 ^ 9, .ok ()⟩,
    ⟨scanner, .handshakeFailed, 240 * 10 ^ 9, .ok ()⟩,
    ⟨scanner, .handshakeFailed, 360 * 10 ^ 9, .ok ()⟩,
    ⟨scanner, .handshakeFailed, 480 * 10 ^ 9, .ok ()⟩]

def fifthScan : Received := ⟨scanner, .handshakeFailed, 600 * 10 ^ 9, .ok ()⟩

theorem bans_exactly_fifthScan :
    (((FailureTracker.new 600 2).after [.record scanner 0]).record scanner 600).1 = true ∧
    ∃ tracker calls tracker' es, CountedRun {} scans tracker calls ∧
      daemonStep {} tracker fifthScan = some (tracker', es) ∧
        ∃ e ∈ es, e.target = some scanner := by
  constructor
  · exact (bans_exactly.1 600 2 [.record scanner 0] scanner 600 (by decide)).1.mpr (by decide)
  · obtain ⟨tracker, hrun⟩ : ∃ tracker, CountedRun {} scans tracker
        [.record scanner 0, .forget scanner, .record scanner (120 * 10 ^ 9),
          .record scanner (240 * 10 ^ 9), .record scanner (360 * 10 ^ 9),
          .record scanner (480 * 10 ^ 9)] :=
      ⟨_, run_of_exec rfl⟩
    obtain ⟨tracker', es, hst⟩ := exists_step {} tracker fifthScan
    have hexempt : ¬ Exempt {} scanner := by
      rintro (h | h)
      · revert h
        decide
      · cases h
    exact ⟨tracker, _, tracker', es, hrun, hst,
      ((bans_exactly.2 _ _ _ _ _ _ _ hrun hst (by decide)).2 hexempt rfl).mpr (by decide)⟩

end Ghostport.Firewall
