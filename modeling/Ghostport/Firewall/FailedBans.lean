import Mathlib.Data.List.TakeWhile
import Ghostport.Firewall.Threshold

/-!
# Bans that fail

The loop of `run_daemon` forgets an address after it has tried to ban it, whether `nft` has
succeeded or not: the failures of the offender are gone, and the next one counts as the first.

Results:
* `kept_step`: which failures a step keeps.
* `attempt_after_failed`: what the next failure does after a ban that failed.
* `neverForgives_iff`: the runs in which no failed ban forgives.
-/

namespace Ghostport.Firewall

open Ghostport.Core Ghostport.Lib Ghostport.Net

/-- After the offences `before`, the step of `r`. -/
def StepAfter (cfg : AppConfig) (before : List Received) (tracker : FailureTracker) (r : Received)
    (tracker' : FailureTracker) (es : List Event) : Prop :=
  (∃ tr, DaemonRun cfg before tracker tr) ∧ daemonStep cfg tracker r = some (tracker', es)

/-- The failures of an address when `r` has been recorded. -/
def failuresWith (cfg : AppConfig) (tracker : FailureTracker) (r : Received)
    (ip : IpAddr) : List Instant :=
  tracker.failures ip ++
    if ip = r.ip ∧ r.offense = .handshakeFailed ∧ ¬ Exempt cfg ip then [r.now] else []

/-- A failure inside the window is not kept. -/
def Discards (cfg : AppConfig) (tracker : FailureTracker) (r : Received)
    (tracker' : FailureTracker) (ip : IpAddr) : Prop :=
  ∃ at' ∈ failuresWith cfg tracker r ip, r.now - at' ≤ tracker.window ∧
    at' ∉ tracker'.failures ip

/-- Failures are discarded only in a step that bans. After a ban that failed, the next offence of
    the address, if it is a failure inside the window, leads to another attempt. -/
structure NeverForgives (cfg : AppConfig) (rs : List Received) : Prop where
  kept : ∀ before r rest tracker tracker' es, rs = before ++ r :: rest →
    StepAfter cfg before tracker r tracker' es → ∀ ip, Discards cfg tracker r tracker' ip →
      .banned ip cfg.banSecs r.offense ∈ es
  again : ∀ before r mid r' rest tracker tracker' es e t t' es',
    rs = before ++ r :: mid ++ r' :: rest → StepAfter cfg before tracker r tracker' es →
    .banFailed r.ip e ∈ es → (∀ m ∈ mid, m.ip ≠ r.ip) → r'.ip = r.ip →
    r'.offense = .handshakeFailed → r'.now - r.now ≤ cfg.tracker.window →
    StepAfter cfg (before ++ r :: mid) t r' t' es' → ∃ e' ∈ es', e'.target = some r.ip

/-- The offence is one to ban for: with the failures still inside the window, the threshold is
    reached. -/
def Due (tracker : FailureTracker) (r : Received) : Prop :=
  match r.offense with
  | .rateLimited => True
  | .handshakeFailed =>
    ((tracker.failures r.ip).dropWhile fun front => front < r.now - tracker.window).length + 1 =
      tracker.threshold

/-- A ban fails only for an address that was rate limited and has no failure inside the window.
    If its next offence is a failure inside the window, the threshold is 1. -/
def FailsHarmlessly (cfg : AppConfig) (rs : List Received) : Prop :=
  ∀ before r rest tracker tr, rs = before ++ r :: rest → DaemonRun cfg before tracker tr →
    ¬ Exempt cfg r.ip → Due tracker r → ∀ e, r.ban = .error e →
      r.offense = .rateLimited ∧
      (∀ at' ∈ tracker.failures r.ip, tracker.window < r.now - at') ∧
      ∀ mid r' rest', rest = mid ++ r' :: rest' → (∀ m ∈ mid, m.ip ≠ r.ip) → r'.ip = r.ip →
        r'.offense = .handshakeFailed → r'.now - r.now ≤ cfg.tracker.window → cfg.threshold = 1

section

variable {cfg : AppConfig} {tracker tracker' : FailureTracker} {before : List Received}
  {r : Received} {es : List Event} {ip : IpAddr}

theorem settings_run {rs : List Received} {tr : List Event} (h : DaemonRun cfg rs tracker tr) :
    tracker.window = cfg.tracker.window ∧ tracker.threshold = cfg.threshold := by
  refine h.invariant (I := fun tracker _ =>
    tracker.window = cfg.tracker.window ∧ tracker.threshold = cfg.threshold) ⟨rfl, rfl⟩ ?_
  intro tracker tr r tracker' es hsame _ hst
  cases daemonStep_cases hst <;> exact hsame

theorem window_pos {rs : List Received} {tr : List Event} (h : DaemonRun cfg rs tracker tr) :
    0 ≤ tracker.window := by
  rw [(settings_run h).1]
  unfold AppConfig.tracker FailureTracker.new
  positivity

/-- The queue when a failure has been recorded. -/
theorem failures_recorded (hwindow : 0 ≤ tracker.window) (r : Received) :
    (tracker.record r.ip r.now).2.failures r.ip =
      ((tracker.failures r.ip).dropWhile fun front => front < r.now - tracker.window) ++
        [r.now] := by
  have hkeep : List.dropWhile (fun front : Instant => front < r.now - tracker.window) [r.now] =
      [r.now] :=
    List.dropWhile_cons_of_neg (by simpa using hwindow)
  rw [FailureTracker.failures_record hwindow, List.dropWhile_append, hkeep]
  split
  · rename_i hempty
    rw [List.isEmpty_iff.mp hempty, List.nil_append]
  · rfl

/-- `should_ban` is true for the offences that are due. -/
theorem due_iff (hwindow : 0 ≤ tracker.window) :
    (shouldBan tracker r).1 = true ↔ Due tracker r := by
  unfold shouldBan Due
  cases r.offense with
  | rateLimited => simp
  | handshakeFailed =>
    simp only
    rw [FailureTracker.record_eq_true, failures_recorded hwindow, List.length_append]
    rfl

/-- What the loop does for an address that is not exempt when a ban is due. -/
theorem step_due (hst : daemonStep cfg tracker r = some (tracker', es))
    (hexempt : ¬ Exempt cfg r.ip) (hdue : (shouldBan tracker r).1 = true) :
    es = [banEvent cfg r] ∧ tracker'.failures r.ip = [] := by
  cases daemonStep_cases hst with
  | isExempt h _ => exact absurd h hexempt
  | limited _ _ | reached _ _ _ => exact ⟨rfl, FailureTracker.failures_forget⟩
  | counted _ hoffense hreached =>
    rw [shouldBan, hoffense] at hdue
    rw [hreached] at hdue
    cases hdue

/-- An offence of another address does not touch the queue. -/
theorem failures_step_of_ne (hst : daemonStep cfg tracker r = some (tracker', es))
    (hip : ip ≠ r.ip) : tracker'.failures ip = tracker.failures ip := by
  cases daemonStep_cases hst with
  | isExempt _ _ => rfl
  | limited _ _ => exact FailureTracker.failures_forget_of_ne hip
  | reached _ _ _ =>
    rw [FailureTracker.failures_forget_of_ne hip, FailureTracker.failures_record_of_ne hip]
  | counted _ _ _ => exact FailureTracker.failures_record_of_ne hip

/-- The loop takes every offence. -/
theorem exists_run {tr : List Event} (hrun : DaemonRun cfg before tracker tr)
    (mid : List Received) : ∃ t tr', DaemonRun cfg (before ++ mid) t tr' := by
  induction mid using List.reverseRecOn with
  | nil => exact ⟨tracker, tr, by rwa [List.append_nil]⟩
  | append_singleton mid m ih =>
    obtain ⟨t, tr', hrun'⟩ := ih
    obtain ⟨t', es, hst⟩ := exists_step cfg t m
    rw [← List.append_assoc]
    exact ⟨t', _, hrun'.snoc trivial hst⟩

theorem failures_run_of_ne {mid : List Received} {t : FailureTracker} {tr tr' : List Event}
    (hrun : DaemonRun cfg before tracker tr) (hmid : ∀ m ∈ mid, m.ip ≠ ip)
    (hrun' : DaemonRun cfg (before ++ mid) t tr') : t.failures ip = tracker.failures ip := by
  induction mid using List.reverseRecOn generalizing t tr' with
  | nil =>
    rw [List.append_nil] at hrun'
    rw [(hrun'.det hrun).1]
  | append_singleton mid m ih =>
    rw [← List.append_assoc] at hrun'
    obtain ⟨t', tr₁, es, hbefore, -, hst, -⟩ := hrun'.last
    rw [failures_step_of_ne hst (hmid m (by simp)).symm]
    exact ih (fun m' hm' => hmid m' (List.mem_append_left _ hm')) hbefore

theorem mem_dropWhile {α : Type} {p : α → Bool} {l : List α} {a : α} (ha : a ∈ l)
    (hp : ¬ p a) : a ∈ l.dropWhile p := by
  rw [← List.takeWhile_append_dropWhile (p := p) (l := l), List.mem_append] at ha
  exact ha.resolve_left fun h => hp (List.mem_takeWhile_imp h)

/-- A failure that is inside the window is kept, unless a ban is due. -/
theorem discards_cases (hwindow : 0 ≤ tracker.window)
    (hst : daemonStep cfg tracker r = some (tracker', es))
    (h : Discards cfg tracker r tracker' ip) :
    ip = r.ip ∧ ¬ Exempt cfg r.ip ∧ (shouldBan tracker r).1 = true := by
  obtain ⟨at', hmem, hin, hnot⟩ := h
  by_cases hip : ip = r.ip
  · subst hip
    unfold failuresWith at hmem
    cases daemonStep_cases hst with
    | isExempt hexempt _ =>
      rw [if_neg fun hc => hc.2.2 hexempt, List.append_nil] at hmem
      exact absurd hmem hnot
    | limited hexempt hoffense => exact ⟨rfl, hexempt, by rw [shouldBan, hoffense]⟩
    | reached hexempt hoffense hreached =>
      exact ⟨rfl, hexempt, by rw [shouldBan, hoffense]; exact hreached⟩
    | counted hexempt hoffense _ =>
      rw [if_pos ⟨rfl, hoffense, hexempt⟩] at hmem
      refine absurd ?_ hnot
      rw [FailureTracker.failures_record hwindow]
      refine mem_dropWhile hmem ?_
      simpa using sub_le_comm.mp hin
  · refine absurd ?_ hnot
    rw [failures_step_of_ne hst hip]
    unfold failuresWith at hmem
    rwa [if_neg fun hc => hip hc.1, List.append_nil] at hmem

theorem banEvent_error {e : String} (hreal : cfg.dryRun = false) (hban : r.ban = .error e) :
    banEvent cfg r = .banFailed r.ip e := by
  unfold banEvent
  rw [hreal, hban]
  rfl

theorem banEvent_ok (hreal : cfg.dryRun = false) (hban : r.ban = .ok ()) :
    banEvent cfg r = .banned r.ip cfg.banSecs r.offense := by
  unfold banEvent
  rw [hreal, hban]
  rfl

/-- A ban has failed. -/
theorem failed_cases (hreal : cfg.dryRun = false)
    (hst : daemonStep cfg tracker r = some (tracker', es)) {ip : IpAddr} {e : String}
    (hfailed : .banFailed ip e ∈ es) :
    ¬ Exempt cfg r.ip ∧ (shouldBan tracker r).1 = true ∧ r.ban = .error e ∧
      tracker'.failures r.ip = [] := by
  have hban : banEvent cfg r = .banFailed ip e → r.ban = .error e := by
    intro heq
    cases hban : r.ban with
    | ok u =>
      rw [banEvent_ok hreal hban] at heq
      cases heq
    | error e' =>
      rw [banEvent_error hreal hban] at heq
      cases heq
      rfl
  cases daemonStep_cases hst with
  | isExempt _ hnone =>
    have := hnone _ hfailed
    cases this
  | limited hexempt hoffense =>
    exact ⟨hexempt, by rw [shouldBan, hoffense], hban (List.mem_singleton.mp hfailed).symm,
      FailureTracker.failures_forget⟩
  | reached hexempt hoffense hreached =>
    exact ⟨hexempt, by rw [shouldBan, hoffense]; exact hreached,
      hban (List.mem_singleton.mp hfailed).symm, FailureTracker.failures_forget⟩
  | counted _ _ _ => cases hfailed

/-- The first failure of a forgotten address. -/
theorem attempt_forgotten (hwindow : 0 ≤ tracker.window) (hempty : tracker.failures r.ip = [])
    (hexempt : ¬ Exempt cfg r.ip) (hoffense : r.offense = .handshakeFailed)
    (hst : daemonStep cfg tracker r = some (tracker', es)) :
    (∃ e ∈ es, e.target = some r.ip) ↔ tracker.threshold = 1 := by
  rw [attempt_iff hst hexempt hoffense, FailureTracker.record_eq_true, failures_recorded hwindow,
    hempty]
  exact eq_comm

end

/-! ## Runs -/

section

variable {cfg : AppConfig} {rs : List Received}

/-- After a ban that failed, the next failure leads to another attempt exactly if the threshold
    is 1. -/
theorem attempt_after_failed (hreal : cfg.dryRun = false) {before mid : List Received}
    {r r' : Received} {tracker tracker' t t' : FailureTracker} {es es' : List Event} {e : String}
    (hst : StepAfter cfg before tracker r tracker' es) (hfailed : .banFailed r.ip e ∈ es)
    (hmid : ∀ m ∈ mid, m.ip ≠ r.ip) (hip : r'.ip = r.ip) (hoffense : r'.offense = .handshakeFailed)
    (hst' : StepAfter cfg (before ++ r :: mid) t r' t' es') :
    (∃ e' ∈ es', e'.target = some r.ip) ↔ cfg.threshold = 1 := by
  obtain ⟨⟨tr, hrun⟩, hstep⟩ := hst
  obtain ⟨⟨tr', hrun'⟩, hstep'⟩ := hst'
  obtain ⟨hexempt, -, -, hempty⟩ := failed_cases hreal hstep hfailed
  have hsnoc : DaemonRun cfg (before ++ [r]) tracker' (tr ++ es) := hrun.snoc trivial hstep
  rw [List.append_cons] at hrun'
  have hforgotten : t.failures r.ip = [] := by
    rw [failures_run_of_ne hsnoc hmid hrun', hempty]
  rw [← hip] at hforgotten hexempt ⊢
  rw [attempt_forgotten (window_pos hrun') hforgotten hexempt hoffense hstep',
    (settings_run hrun').2]

/-- A due ban empties the queue: it discards nothing only if the queue was empty, but for failures
    that are too old, and the offence is no failure. -/
theorem idle_of_kept {tracker tracker' : FailureTracker} {r : Received} {es : List Event}
    (hwindow : 0 ≤ tracker.window) (hstep : daemonStep cfg tracker r = some (tracker', es))
    (hexempt : ¬ Exempt cfg r.ip) (hdue : (shouldBan tracker r).1 = true)
    (hkept : ¬ Discards cfg tracker r tracker' r.ip) :
    r.offense = .rateLimited ∧ ∀ at' ∈ tracker.failures r.ip, tracker.window < r.now - at' := by
  have hempty := (step_due hstep hexempt hdue).2
  have hold : ∀ at' ∈ failuresWith cfg tracker r r.ip, tracker.window < r.now - at' := by
    intro at' hmem
    by_contra hin
    exact hkept ⟨at', hmem, not_lt.mp hin, by rw [hempty]; simp⟩
  unfold failuresWith at hold
  have hoffense : r.offense = .rateLimited := by
    cases hoffense : r.offense with
    | rateLimited => rfl
    | handshakeFailed =>
      -- the failure itself is in the window
      rw [if_pos ⟨rfl, hoffense, hexempt⟩] at hold
      have hnow := hold r.now (by simp)
      rw [sub_self] at hnow
      exact absurd hwindow (not_le.mpr hnow)
  exact ⟨hoffense, fun at' hat => hold at' (List.mem_append_left _ hat)⟩

theorem harmless_of_neverForgives (hreal : cfg.dryRun = false) (h : NeverForgives cfg rs) :
    FailsHarmlessly cfg rs := by
  intro before r rest tracker tr hsplit hrun hexempt hdue e hban
  obtain ⟨tracker', es, hstep⟩ := exists_step cfg tracker r
  have hst : StepAfter cfg before tracker r tracker' es := ⟨⟨tr, hrun⟩, hstep⟩
  have hwindow := window_pos hrun
  have hshould := (due_iff hwindow).mpr hdue
  obtain ⟨rfl, -⟩ := step_due hstep hexempt hshould
  rw [banEvent_error hreal hban] at hstep hst
  have hkept : ¬ Discards cfg tracker r tracker' r.ip := by
    intro hdiscards
    have hbanned := h.kept _ _ _ _ _ _ hsplit hst r.ip hdiscards
    simp at hbanned
  obtain ⟨hoffense, hold⟩ := idle_of_kept hwindow hstep hexempt hshould hkept
  refine ⟨hoffense, hold, ?_⟩
  rintro mid r' rest' rfl hmid hip hoffense' hin
  have hsnoc : DaemonRun cfg (before ++ [r]) tracker' (tr ++ [.banFailed r.ip e]) :=
    hrun.snoc trivial hstep
  obtain ⟨t, trmid, hrun'⟩ := exists_run hsnoc mid
  rw [← List.append_cons] at hrun'
  obtain ⟨t', es', hstep'⟩ := exists_step cfg t r'
  have hst' : StepAfter cfg (before ++ r :: mid) t r' t' es' := ⟨⟨trmid, hrun'⟩, hstep'⟩
  have hagain := h.again _ _ _ _ _ _ _ _ e _ _ _ (by simpa using hsplit) hst
    (List.mem_singleton_self _) hmid hip hoffense' hin hst'
  exact (attempt_after_failed hreal hst (List.mem_singleton_self _) hmid hip hoffense' hst').mp
    hagain

theorem neverForgives_of_harmless (hreal : cfg.dryRun = false) (h : FailsHarmlessly cfg rs) :
    NeverForgives cfg rs := by
  constructor
  · rintro before r rest tracker tracker' es hsplit ⟨⟨tr, hrun⟩, hstep⟩ ip hdiscards
    have hwindow := window_pos hrun
    obtain ⟨rfl, hexempt, hdue⟩ := discards_cases hwindow hstep hdiscards
    obtain ⟨rfl, -⟩ := step_due hstep hexempt hdue
    cases hban : r.ban with
    | ok u =>
      rw [banEvent_ok hreal hban]
      exact List.mem_singleton_self _
    | error e =>
      obtain ⟨hoffense, hold, -⟩ :=
        h _ _ _ _ _ hsplit hrun hexempt ((due_iff hwindow).mp hdue) e hban
      obtain ⟨at', hmem, hin, -⟩ := hdiscards
      unfold failuresWith at hmem
      rw [if_neg fun hc => by simp [hoffense] at hc, List.append_nil] at hmem
      exact absurd hin (not_le.mpr (hold at' hmem))
  · intro before r mid r' rest tracker tracker' es e t t' es' hsplit hst hfailed hmid hip
      hoffense hin hst'
    obtain ⟨⟨tr, hrun⟩, hstep⟩ := hst
    obtain ⟨hexempt, hdue, hban, -⟩ := failed_cases hreal hstep hfailed
    obtain ⟨-, -, hnext⟩ := h before r (mid ++ r' :: rest) tracker tr (by simpa using hsplit) hrun
      hexempt ((due_iff (window_pos hrun)).mp hdue) e hban
    have hthreshold := hnext mid r' rest rfl hmid hip hoffense hin
    exact (attempt_after_failed hreal ⟨⟨tr, hrun⟩, hstep⟩ hfailed hmid hip hoffense hst').mpr
      hthreshold

/-- No failed ban forgives exactly if every ban that fails is harmless. -/
theorem neverForgives_iff (hreal : cfg.dryRun = false) (rs : List Received) :
    NeverForgives cfg rs ↔ FailsHarmlessly cfg rs :=
  ⟨harmless_of_neverForgives hreal, neverForgives_of_harmless hreal⟩

end

/-! ### `nft` cannot be started -/

def refused : Except String Unit := .error "Cannot allocate memory (os error 12)"

/-- Four failures, and the fifth, for which the ban fails. -/
def fourScans : List Received := List.replicate 4 ⟨scanner, .handshakeFailed, 0, refused⟩

def deniedScan : Received := ⟨scanner, .handshakeFailed, 10 ^ 9, refused⟩

def nextScan : Received := ⟨scanner, .handshakeFailed, 2 * 10 ^ 9, refused⟩

/-- With the default settings the sixth failure in a row is the first again. -/
theorem deniedScan_forgiven :
    (∃ tracker tracker' t', StepAfter {} fourScans tracker deniedScan tracker'
        [.banFailed scanner "Cannot allocate memory (os error 12)"] ∧
      tracker'.failures scanner = [] ∧
      StepAfter {} (fourScans ++ [deniedScan]) tracker' nextScan t' [] ∧
      t'.failures scanner = [2 * 10 ^ 9]) ∧
    ¬ NeverForgives {} (fourScans ++ [deniedScan, nextScan]) := by
  have hruns : ∃ tracker tracker' t', StepAfter {} fourScans tracker deniedScan tracker'
        [.banFailed scanner "Cannot allocate memory (os error 12)"] ∧
      tracker'.failures scanner = [] ∧
      StepAfter {} (fourScans ++ [deniedScan]) tracker' nextScan t' [] ∧
      t'.failures scanner = [2 * 10 ^ 9] :=
    ⟨_, _, _, ⟨⟨_, run_of_exec rfl⟩, rfl⟩, by decide, ⟨⟨_, run_of_exec rfl⟩, rfl⟩, by decide⟩
  refine ⟨hruns, fun h => ?_⟩
  obtain ⟨tracker, tracker', t', hst, -, hst', -⟩ := hruns
  obtain ⟨e', he', -⟩ := h.again fourScans deniedScan [] nextScan [] _ _ _ _ _ _ _ rfl hst
    (List.mem_singleton_self _) (by simp) rfl rfl (by decide) hst'
  cases he'

/-- A rate-limited address without failures may be let off. -/
theorem neverForgives_iff_limited :
    NeverForgives {} [⟨scanner, .rateLimited, 0, refused⟩] := by
  refine (neverForgives_iff rfl _).mpr ?_
  rintro before r rest tracker tr hsplit hrun - - e -
  obtain ⟨rfl, rfl, rfl⟩ : before = [] ∧ r = ⟨scanner, .rateLimited, 0, refused⟩ ∧ rest = [] := by
    cases before with
    | nil => simpa using hsplit.symm
    | cons b before => simp at hsplit
  obtain ⟨rfl, -⟩ := hrun.det (.nil (C := Free))
  refine ⟨rfl, fun at' hat => absurd hat List.not_mem_nil, fun mid r' rest' h => ?_⟩
  simp at h

end Ghostport.Firewall
