import Ghostport.Client.Dials
import Ghostport.Lib.Backoff

/-!
# How often the client reconnects

`run_control_loop` dials the server's control address when it starts and after each sleep. It
sleeps a second after its first failure and twice as long after each further one, up to
`MAX_BACKOFF`; a handshake that succeeds brings it back to a second.

Results:
* `paced_run`: the control loop is a dialer that waits `capped minBackoff maxBackoff`.
* `reconnects_bounded`: however the connections end, the dials of any stretch of time are
  bounded by its length and by how many handshakes succeeded in it. Within the window of the
  server's limiter there are six dials if none did, and no more than an address is allowed if
  one did.
-/

namespace Ghostport.Client

open Ghostport.Core Ghostport.Net Ghostport.Lib

/-! ## What is counted -/

/-- The dials of the control loop after its first, and the ends of its handshakes. -/
def reconnects (s : State) (a : Action) (_ : List Event) : List (Mark Instant) :=
  match a with
  | .control .wake => [.dial s.clock]
  | .control (.handshake (.ok ()) _) => [.done s.clock]
  | _ => []

/-- The runs from `clock` on, with all dials of the control loop. -/
def ReconnectRun (ctx : Context) (clock : Instant) (as : List Action) (s : State)
    (marks : List (Mark Instant)) : Prop :=
  ∃ s₀ seen, start ctx clock = some s₀ ∧ marks = .dial clock :: seen ∧
    Run (observe (step ctx) reconnects) Free s₀ as s seen

/-- What the control loop sleeps after `k` dials in a row that failed. -/
def backoffAfter : ℕ → Instant := capped minBackoff maxBackoff

variable {ctx : Context} {s s' : State} {es : List Event}

/-! ## Steps -/

/-- The other tasks leave the control loop and the clock alone. -/
theorem control_of_step {a : Action} (htick : ∀ now, a ≠ .tick now) (hcontrol : ∀ b, a ≠ .control b)
    (h : step ctx s a = some (s', es)) : s'.clock = s.clock ∧ s'.control = s.control := by
  have hdial : ∀ {s s' : State} {stream : Stream} {es : List Event},
      DialCase ctx s stream s' es → s'.clock = s.clock ∧ s'.control = s.control := by
    intro s s' stream es hc
    cases hc <;> exact ⟨rfl, rfl⟩
  cases step_cases h with
  | tick _ => exact absurd rfl (htick _)
  | control _ => exact absurd rfl (hcontrol _)
  | listener hc =>
    cases hc with
    | accepted _ hc => exact hdial hc
    | _ => exact ⟨rfl, rfl⟩
  | opening hc =>
    cases hc with
    | failed _ => exact ⟨rfl, rfl⟩
    | opened _ hs hc =>
      obtain ⟨hclock, hcontrol⟩ := hdial hc
      exact ⟨hclock.trans (by rw [hs]), hcontrol.trans (by rw [hs])⟩
  | tunnel hc => cases hc <;> exact ⟨rfl, rfl⟩

/-- The cases of the control loop by what it waits for: it goes on, it falls asleep, a
    handshake succeeds, it wakes. -/
inductive WaitCase (s : State) : ControlAction → State → Prop
  | awake {a : ControlAction} {s' : State} : s'.clock = s.clock →
    s'.control.backoff = s.control.backoff → (∀ wakeAt, s'.control.phase ≠ .sleeping wakeAt) →
    reconnects s (.control a) [] = [] → WaitCase s a s'
  | asleep {a : ControlAction} {s' : State} : s'.clock = s.clock →
    s'.control.backoff = s.control.backoff →
    s'.control.phase = .sleeping (s.clock + s.control.backoff) →
    reconnects s (.control a) [] = [] → WaitCase s a s'
  | succeeded {nowUnix : UInt64} {s' : State} : s'.clock = s.clock →
    s'.control.backoff = minBackoff → (∀ wakeAt, s'.control.phase ≠ .sleeping wakeAt) →
    WaitCase s (.handshake (.ok ()) nowUnix) s'
  | woken {wakeAt : Instant} {s' : State} : s'.clock = s.clock →
    s.control.phase = .sleeping wakeAt → wakeAt ≤ s.clock →
    s'.control.backoff = min (s.control.backoff * 2) maxBackoff →
    (∀ wakeAt, s'.control.phase ≠ .sleeping wakeAt) → WaitCase s .wake s'

theorem handleOpenStream_control (ctx : Context) (s : State) (linkId : String)
    (streamId : UInt64) : (handleOpenStream ctx s linkId streamId).1.clock = s.clock ∧
      (handleOpenStream ctx s linkId streamId).1.control = s.control := by
  unfold handleOpenStream
  split
  · exact ⟨rfl, rfl⟩
  · split <;> exact ⟨rfl, rfl⟩

theorem wait_cases {a : ControlAction} (h : runControlLoop ctx s a = some (s', es)) :
    WaitCase s a s' := by
  unfold runControlLoop at h
  simp only at h
  split at h
  case h_1 | h_3 => cases h; exact .asleep rfl rfl rfl rfl
  case h_2 =>
    split at h
    · cases h
      exact .asleep rfl rfl rfl rfl
    · cases h
      exact .awake rfl rfl (by simp) rfl
  case h_4 => cases h; exact .succeeded rfl rfl (by simp)
  case h_5 =>
    split at h
    · cases h
      exact .asleep rfl rfl rfl rfl
    · cases h
  case h_6 =>
    split at h
    · cases h
      exact .awake rfl rfl (by simp) rfl
    · cases h
  case h_7 hphase => cases h; exact .awake rfl rfl (by simp [hphase]) rfl
  case h_8 | h_11 => cases h; exact .awake rfl rfl (by simp) rfl
  case h_9 linkId streamId hphase =>
    split at h
    · cases h
      obtain ⟨hclock, hcontrol⟩ := handleOpenStream_control ctx s linkId streamId
      exact .awake hclock (by rw [hcontrol]) (by rw [hcontrol, hphase]; simp) rfl
    · cases h
      exact .awake rfl rfl (by simp [hphase]) rfl
  case h_10 | h_12 => cases h; exact .asleep rfl rfl rfl rfl
  case h_13 hphase =>
    split at h
    · rename_i hle
      cases h
      exact .woken rfl hphase hle rfl (by simp)
    · cases h
  case h_14 => cases h

/-! ## Runs -/

theorem backoffAfter_succ (k : ℕ) : backoffAfter (k + 1) = min (backoffAfter k * 2) maxBackoff :=
  capped_succ (by decide) k

theorem backoffAfter_mono {j k : ℕ} (h : j ≤ k) : backoffAfter j ≤ backoffAfter k :=
  capped_mono (by decide) h

theorem backoffAfter_le (k : ℕ) : backoffAfter k ≤ maxBackoff := min_le_right _ _

/-- The control loop is such a dialer; where it sleeps, it sleeps as long as that dialer waits. -/
structure PacedInv (s : State) (marks : List (Mark Instant)) (k : ℕ) (u : Instant) : Prop where
  paced : Paced backoffAfter marks k u
  le_clock : u ≤ s.clock
  backoff : s.control.backoff = backoffAfter k
  sleeping : ∀ wakeAt, s.control.phase = .sleeping wakeAt →
    u + backoffAfter k ≤ wakeAt ∧ wakeAt ≤ s.clock + maxBackoff

variable {marks : List (Mark Instant)} {k : ℕ} {u : Instant}

theorem PacedInv.control (h : PacedInv s marks k u) {a : ControlAction}
    (hst : runControlLoop ctx s a = some (s', es)) :
    ∃ k' u', PacedInv s' (marks ++ reconnects s (.control a) es) k' u' := by
  have hu := h.le_clock
  cases wait_cases hst with
  | awake hclock hbackoff hphase hnone =>
    refine ⟨k, u, ?_, by rwa [hclock], by rw [hbackoff, h.backoff], fun wakeAt hp =>
      absurd hp (hphase wakeAt)⟩
    show Paced _ (marks ++ reconnects s (.control a) []) k u
    rw [hnone, List.append_nil]
    exact h.paced
  | asleep hclock hbackoff hphase hnone =>
    refine ⟨k, u, ?_, by rwa [hclock], by rw [hbackoff, h.backoff], fun wakeAt hp => ?_⟩
    · show Paced _ (marks ++ reconnects s (.control a) []) k u
      rw [hnone, List.append_nil]
      exact h.paced
    · rw [hphase] at hp
      cases hp
      rw [h.backoff, hclock]
      exact ⟨add_le_add_left hu _, add_le_add_right (backoffAfter_le k) _⟩
  | succeeded hclock hbackoff hphase =>
    exact ⟨0, s.clock, h.paced.done hu, hclock.ge, hbackoff, fun wakeAt hp =>
      absurd hp (hphase wakeAt)⟩
  | woken hclock hsleeping hle hbackoff hphase =>
    have hwaited : u + backoffAfter k ≤ s.clock := (h.sleeping _ hsleeping).1.trans hle
    refine ⟨k + 1, s.clock, h.paced.dial hwaited, hclock.ge, ?_, fun wakeAt hp =>
      absurd hp (hphase wakeAt)⟩
    rw [hbackoff, h.backoff, backoffAfter_succ]

theorem PacedInv.step (h : PacedInv s marks k u) {a : Action}
    (hst : Client.step ctx s a = some (s', es)) :
    ∃ k' u', PacedInv s' (marks ++ reconnects s a es) k' u' := by
  have hother : ∀ {a : Action}, reconnects s a es = [] → (∀ now, a ≠ .tick now) →
      (∀ b, a ≠ .control b) → Client.step ctx s a = some (s', es) →
      ∃ k' u', PacedInv s' (marks ++ reconnects s a es) k' u' := by
    intro a hnone htick hcontrol hst
    obtain ⟨hclock, hsame⟩ := control_of_step htick hcontrol hst
    rw [hnone, List.append_nil]
    exact ⟨k, u, h.paced, by rw [hclock]; exact h.le_clock, by rw [hsame]; exact h.backoff,
      by rw [hsame, hclock]; exact h.sleeping⟩
  match a with
  | .control a => exact h.control hst
  | .listener _ _ => exact hother rfl (by simp) (by simp) hst
  | .opening _ _ => exact hother rfl (by simp) (by simp) hst
  | .tunnel _ _ => exact hother rfl (by simp) (by simp) hst
  | .tick now =>
    cases step_cases hst with
    | tick hle =>
      refine ⟨k, u, by simpa [reconnects] using h.paced, h.le_clock.trans hle, h.backoff, ?_⟩
      intro wakeAt hp
      obtain ⟨hfrom, hto⟩ := h.sleeping wakeAt hp
      exact ⟨hfrom, hto.trans (add_le_add_left hle _)⟩

theorem paced_run {clock : Instant} {as : List Action} (h : ReconnectRun ctx clock as s marks) :
    ∃ k u, PacedInv s marks k u := by
  obtain ⟨s₀, seen, hstart, rfl, hrun⟩ := h
  refine hrun.invariant (I := fun s seen => ∃ k u, PacedInv s (.dial clock :: seen) k u) ?_ ?_
  · unfold start at hstart
    split at hstart
    · cases hstart
      have hfirst : backoffAfter 0 = minBackoff := capped_zero (by decide)
      exact ⟨0, clock, .first clock, le_rfl, hfirst.symm, by simp⟩
    · cases hstart
  · rintro s seen a s' new ⟨k, u, hinv⟩ - hst
    obtain ⟨⟨t, es⟩, hst', heq⟩ := Option.map_eq_some_iff.mp hst
    cases heq
    exact hinv.step hst'

/-! ## Results -/

/-- In the long run the dials are `maxBackoff` apart. -/
theorem lead_long : Lead backoffAfter maxBackoff (119 * 10 ^ 9) := by
  refine lead_of_tail (n := 5) (by decide) fun j hj => ?_
  calc maxBackoff = backoffAfter 5 := by decide
    _ ≤ backoffAfter j := backoffAfter_mono hj

/-- The first five dials of a row are 16 seconds apart or less. -/
theorem lead_short : Lead backoffAfter (16 * 10 ^ 9) (49 * 10 ^ 9) := by
  refine lead_of_tail (n := 4) (by decide) fun j hj => ?_
  calc 16 * 10 ^ 9 = backoffAfter 4 := by decide
    _ ≤ backoffAfter j := backoffAfter_mono hj

theorem PacedInv.dials_le (h : PacedInv s marks k u) {a m c : Instant}
    (hlead : Lead backoffAfter a m) (ha : 0 ≤ a) (hc : c ≤ s.clock) :
    a * dialsSince c marks ≤ a + (s.clock - c) + m * (donesSince c marks + 1) :=
  h.paced.dials_le (fun _ _ => backoffAfter_mono) (by decide) hlead ha hc h.le_clock

/-- In every run of the client, however its connections end and whatever the server sends: since
    any time, the control loop has dialed no more than once for each `MAX_BACKOFF` that has
    passed, with a lead of 119 seconds at the beginning and for each handshake that succeeded;
    no sleep is longer than `MAX_BACKOFF`; and in the last `WINDOW` of the limiter it has dialed
    at most six times if no handshake succeeded in it, and at most `MAX_ATTEMPTS_PER_WINDOW`
    times if one did. -/
theorem reconnects_bounded {clock : Instant} {as : List Action}
    (h : ReconnectRun ctx clock as s marks) :
    (∀ c ≤ s.clock, maxBackoff * dialsSince c marks ≤
      maxBackoff + (s.clock - c) + 119 * 10 ^ 9 * (donesSince c marks + 1)) ∧
    (∀ wakeAt, s.control.phase = .sleeping wakeAt → wakeAt ≤ s.clock + maxBackoff) ∧
    (donesSince (s.clock - window) marks = 0 → dialsSince (s.clock - window) marks ≤ 6) ∧
    (donesSince (s.clock - window) marks ≤ 1 →
      dialsSince (s.clock - window) marks ≤ maxAttemptsPerWindow) := by
  obtain ⟨k, u, hinv⟩ := paced_run h
  have hwindow : s.clock - window ≤ s.clock := sub_le_self _ (by decide)
  have hlong : ∀ c ≤ s.clock, _ := fun c hc => hinv.dials_le lead_long (by decide) hc
  have hshort := hinv.dials_le lead_short (by decide) hwindow
  refine ⟨hlong, fun wakeAt hp => (hinv.sleeping wakeAt hp).2, fun hnone => ?_, fun hone => ?_⟩
  · have hdials : (30 * 10 ^ 9 : ℤ) * dialsSince (s.clock - window) marks ≤
        30 * 10 ^ 9 + 60 * 10 ^ 9 + 119 * 10 ^ 9 := by
      have hle := hlong _ hwindow
      rw [hnone, sub_sub_cancel, Nat.cast_zero, zero_add, mul_one] at hle
      exact hle
    omega
  · have hdials : (16 * 10 ^ 9 : ℤ) * dialsSince (s.clock - window) marks ≤
        16 * 10 ^ 9 + 60 * 10 ^ 9 +
          49 * 10 ^ 9 * (donesSince (s.clock - window) marks + 1) := by
      rw [sub_sub_cancel] at hshort
      exact hshort
    unfold maxAttemptsPerWindow
    omega

/-- The client connects in vain until it wakes at the times `wakes`, given in seconds. -/
def refusedUntil (wakes : List Instant) : List Action :=
  wakes.flatMap fun t =>
    [.control (.connect (.error "connection refused")), .tick (t * 10 ^ 9), .control .wake]

/-- The server is down for half a minute and goes down again as soon as it has let the client
    in. -/
def flapping : List Action :=
  refusedUntil [1, 3, 7, 15, 31] ++
    [.control (.connect (.ok ())), .control (.handshake (.ok ()) 0),
      .control (.incoming (.error "connection reset")), .tick (32 * 10 ^ 9), .control .wake] ++
    refusedUntil [34, 38, 46]

/-- The client has then used up what an address is allowed. -/
theorem reconnects_bounded_flapping : ∃ s marks, ReconnectRun homeContext 0 flapping s marks ∧
    dialsSince (s.clock - window) marks = 10 ∧
    dialsSince (s.clock - window) marks ≤ maxAttemptsPerWindow := by
  obtain ⟨s, marks, hrun, hdials, hdones⟩ : ∃ s marks, ReconnectRun homeContext 0 flapping s marks ∧
      dialsSince (s.clock - window) marks = 10 ∧ donesSince (s.clock - window) marks = 1 :=
    ⟨_, _, ⟨_, _, rfl, rfl, run_of_exec rfl⟩, by decide, by decide⟩
  obtain ⟨-, -, -, hone⟩ := reconnects_bounded hrun
  exact ⟨s, marks, hrun, hdials, hone hdones.le⟩

end Ghostport.Client
