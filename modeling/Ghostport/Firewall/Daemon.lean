import Ghostport.Firewall.Detector
import Ghostport.Lib.Machine

/-!
# The firewall daemon (`crates/ghostport-firewall/src/main.rs`)

`watch_service` reads the journal of one service line by line and sends what it extracts to
the loop of `run_daemon`. A step of the loop takes one offence; `nft` answers as it likes.
-/

namespace Ghostport.Firewall

open Ghostport.Core Ghostport.Lib Ghostport.Net

/-! ## The journal -/

/-- `Lines::next_line` takes the newline away, and a carriage return before it. -/
def nextLine (line : List Char) : List Char :=
  if line.getLast? = some '\r' then line.dropLast else line

/-- The lines that `journalctl -o cat` prints for a text that a service has printed. -/
def journalLines (text : List Char) : List (List Char) := (text.splitOn '\n').map nextLine

/-- What `watch_service` (lines 129-158) sends for that text. -/
def offenses (digits : DigitClass) (text : List Char) : List (IpAddr × Offense) :=
  (journalLines text).filterMap (extractOffense digits)

/-! ## The loop of `run_daemon` -/

/-- What the loop reads of `AppConfig` (`config.rs`) and `Args`. -/
structure AppConfig where
  threshold : ℕ := 5
  windowSecs : ℕ := 600
  banSecs : ℕ := 3600
  allowlist : List String := []
  dryRun : Bool := false

/-- Entries that are no plain addresses are ignored (lines 205-214). -/
def AppConfig.allowed (cfg : AppConfig) : List IpAddr :=
  cfg.allowlist.filterMap fun s => IpAddr.parse s.toList

def AppConfig.tracker (cfg : AppConfig) : FailureTracker :=
  .new (cfg.windowSecs * 10 ^ 9) cfg.threshold

/-- An offence out of the channel, the time at which it is recorded, and what `nft::ban`
    returns if it is called. -/
structure Received where
  ip : IpAddr
  offense : Offense
  now : Instant
  ban : Except String Unit

/-- The lines that the loop prints. -/
inductive Event where
  | isProtected (ip : IpAddr) (offense : Offense)
  | wouldBan (ip : IpAddr) (banSecs : ℕ) (offense : Offense)
  | banned (ip : IpAddr) (banSecs : ℕ) (offense : Offense)
  | banFailed (ip : IpAddr) (e : String)
  deriving DecidableEq, Repr

/-- The address that a step bans, or tries or would like to. -/
def Event.target : Event → Option IpAddr
  | .isProtected _ _ => none
  | .wouldBan ip _ _ | .banned ip _ _ | .banFailed ip _ => some ip

/-- `should_ban` (lines 233-240), with what is recorded. -/
def shouldBan (tracker : FailureTracker) (r : Received) : Bool × FailureTracker :=
  match r.offense with
  | .rateLimited => (true, tracker)
  | .handshakeFailed => tracker.record r.ip r.now

/-- The ban branch (lines 242-253). -/
def banEvent (cfg : AppConfig) (r : Received) : Event :=
  if cfg.dryRun then .wouldBan r.ip cfg.banSecs r.offense
  else
    match r.ban with
    | .ok () => .banned r.ip cfg.banSecs r.offense
    | .error e => .banFailed r.ip e

/-- The body of the loop (lines 224-256). -/
def daemonStep (cfg : AppConfig) (tracker : FailureTracker) (r : Received) :
    Option (FailureTracker × List Event) :=
  if isNeverBannable r.ip then some (tracker, [.isProtected r.ip r.offense])
  else if r.ip ∈ cfg.allowed then some (tracker, [])
  else
    let (ban, tracker') := shouldBan tracker r
    if ban then some (tracker'.forget r.ip, [banEvent cfg r]) else some (tracker', [])

/-- The runs of `run_daemon` over the offences `rs`. -/
def DaemonRun (cfg : AppConfig) (rs : List Received) (tracker : FailureTracker)
    (tr : List Event) : Prop :=
  Run (daemonStep cfg) Free cfg.tracker rs tracker tr

theorem exists_step (cfg : AppConfig) (tracker : FailureTracker) (r : Received) :
    ∃ tracker' es, daemonStep cfg tracker r = some (tracker', es) := by
  unfold daemonStep
  split
  · exact ⟨_, _, rfl⟩
  · split
    · exact ⟨_, _, rfl⟩
    · simp only
      split <;> exact ⟨_, _, rfl⟩

theorem banEvent_target (cfg : AppConfig) (r : Received) : (banEvent cfg r).target = some r.ip := by
  unfold banEvent
  split
  · rfl
  · split <;> rfl

/-- Neither counted nor banned. -/
def Exempt (cfg : AppConfig) (ip : IpAddr) : Prop := isNeverBannable ip ∨ ip ∈ cfg.allowed

instance (cfg : AppConfig) (ip : IpAddr) : Decidable (Exempt cfg ip) :=
  inferInstanceAs (Decidable (isNeverBannable ip = true ∨ ip ∈ cfg.allowed))

/-- Everything a step can do. -/
inductive DaemonCase (cfg : AppConfig) (tracker : FailureTracker) (r : Received) :
    FailureTracker → List Event → Prop
  | isExempt {es : List Event} : Exempt cfg r.ip → (∀ e ∈ es, e.target = none) →
    DaemonCase cfg tracker r tracker es
  | limited : ¬ Exempt cfg r.ip → r.offense = .rateLimited →
    DaemonCase cfg tracker r (tracker.forget r.ip) [banEvent cfg r]
  | reached : ¬ Exempt cfg r.ip → r.offense = .handshakeFailed →
    (tracker.record r.ip r.now).1 = true →
    DaemonCase cfg tracker r ((tracker.record r.ip r.now).2.forget r.ip) [banEvent cfg r]
  | counted : ¬ Exempt cfg r.ip → r.offense = .handshakeFailed →
    (tracker.record r.ip r.now).1 = false →
    DaemonCase cfg tracker r (tracker.record r.ip r.now).2 []

theorem daemonStep_cases {cfg : AppConfig} {tracker tracker' : FailureTracker} {r : Received}
    {es : List Event} (h : daemonStep cfg tracker r = some (tracker', es)) :
    DaemonCase cfg tracker r tracker' es := by
  unfold daemonStep at h
  by_cases hprotected : isNeverBannable r.ip
  · rw [if_pos hprotected] at h
    cases h
    exact .isExempt (.inl hprotected) (by simp [Event.target])
  rw [if_neg hprotected] at h
  by_cases hallowed : r.ip ∈ cfg.allowed
  · rw [if_pos hallowed] at h
    cases h
    exact .isExempt (.inr hallowed) (by simp)
  rw [if_neg hallowed] at h
  have hexempt : ¬ Exempt cfg r.ip := not_or.mpr ⟨hprotected, hallowed⟩
  unfold shouldBan at h
  cases hoffense : r.offense with
  | rateLimited =>
    simp only [hoffense, if_true] at h
    cases h
    exact .limited hexempt hoffense
  | handshakeFailed =>
    simp only [hoffense] at h
    by_cases hreached : (tracker.record r.ip r.now).1 = true
    · simp only [hreached, if_true] at h
      cases h
      exact .reached hexempt hoffense hreached
    · simp only [hreached] at h
      cases h
      exact .counted hexempt hoffense (by simpa using hreached)

/-- A step bans nothing but the source of its offence. -/
theorem target_of_step {cfg : AppConfig} {tracker tracker' : FailureTracker} {r : Received}
    {es : List Event} (h : daemonStep cfg tracker r = some (tracker', es)) :
    ∀ e ∈ es, ∀ ip ∈ e.target, ip = r.ip := by
  intro e he ip hip
  cases daemonStep_cases h with
  | isExempt _ hnone =>
    rw [hnone e he] at hip
    cases hip
  | limited _ _ | reached _ _ _ =>
    rw [List.mem_singleton.mp he, banEvent_target] at hip
    exact (Option.some.inj hip).symm
  | counted _ _ _ => cases he

/-- The daemon bans only sources of offences that it was sent. -/
theorem target_of_run {cfg : AppConfig} {rs : List Received} {tracker : FailureTracker}
    {tr : List Event} (h : DaemonRun cfg rs tracker tr) :
    ∀ e ∈ tr, ∀ ip ∈ e.target, ∃ r ∈ rs, ip = r.ip := by
  induction h with
  | nil => simp
  | @snoc rs _ _ tr es r _ _ hst ih =>
    intro e he ip hip
    rcases List.mem_append.mp he with he | he
    · obtain ⟨r', hr', hip'⟩ := ih e he ip hip
      exact ⟨r', List.mem_append_left _ hr', hip'⟩
    · exact ⟨r, by simp, target_of_step hst e he ip hip⟩

end Ghostport.Firewall
