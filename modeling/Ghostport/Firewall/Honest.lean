import Ghostport.Firewall.Attribution
import Ghostport.Server.Limits

/-!
# An honest address is not accused

The limiter counts handshake attempts, not failures: it refuses the eleventh connection of
an address within a minute also where all of them complete their handshakes. The server logs
the refusal, and the firewall bans the address at once.

Results:
* `accused_run`: an address whose handshakes complete, and which stays under the limit, is
  in no rejection and no failed handshake of a run.
* `honest_not_banned`: it is never refused, and never banned for a line about it.
* `busyClient_banned`: eleven good connections.
-/

namespace Ghostport.Firewall

open Ghostport.Core Ghostport.Lib Ghostport.Net Ghostport.Server

/-! ## Lines that accuse an address -/

/-- The address that a line of one of the patterned kinds is about. -/
def accused : LogLine → Option SocketAddr
  | .rejected _ peerAddr | .handshakeFailed peerAddr _ => some peerAddr
  | _ => none

/-- No pattern finds anything in any line of the text. -/
def Quiet (digits : DigitClass) (text : List Char) : Prop :=
  ∀ l ∈ text.splitOn '\n', ∀ p ∈ patterns digits, Regex.find p.1 (stripAnsi l) = none

/-- A line that speaks of `ip` only where it accuses it: what a failed handshake repeats of
    an error is quiet, and no other line reads as an offence of `ip`. -/
def Untainted (digits : DigitClass) (p : Palette) (ip : IpAddr) : LogLine → Prop
  | .rejected _ _ => True
  | .handshakeFailed _ e => Quiet digits e.toList
  | line => ∀ o ∈ offenses digits (line.render p), o.1 ≠ ip

section

variable {digits : DigitClass} {p : Palette}

/-- A rejection names the rejected address. -/
theorem attributed_rejected (channel : Channel) (a : SocketAddr) :
    Attributed digits a.ip ((LogLine.rejected channel a).render p) := by
  rw [attributed_iff_reads, reads_rejected]
  split <;> simp

theorem reads_quiet {text : List Char} (h : Quiet digits text) :
    Reads digits (· = none) text := by
  rw [reads_iff_allLines, allLines_iff]
  refine fun l hl => List.findSome?_eq_none_iff.mpr fun q hq => ?_
  simp only [extractWith, h l hl q hq]

/-- A failed handshake whose error is quiet names the address it failed for. -/
theorem attributed_handshakeFailed {a : SocketAddr} {e : String} (he : Quiet digits e.toList) :
    Attributed digits a.ip ((LogLine.handshakeFailed a e).render p) := by
  obtain ⟨hfirst, hrest⟩ := (reads_iff_first _).mp (reads_quiet he)
  rw [attributed_iff_reads, reads_handshakeFailed, extractOffense_handshakeFront, hfirst]
  refine ⟨?_, fun rest h => (hrest rest h).imp fun r hr => ?_⟩
  · split <;> simp
  · rw [hr]
    simp

/-- No offence of `ip` comes from a line that does not accuse it. -/
theorem offense_ne {ip : IpAddr} {line : LogLine} (hline : Untainted digits p ip line)
    (haccused : ∀ a ∈ accused line, a.ip ≠ ip) :
    ∀ o ∈ offenses digits (line.render p), o.1 ≠ ip := by
  have named : ∀ a, accused line = some a → Attributed digits a.ip (line.render p) →
      ∀ o ∈ offenses digits (line.render p), o.1 ≠ ip := by
    intro a ha hattr o ho
    obtain ⟨l, hl, hextract⟩ := List.mem_filterMap.mp ho
    rw [hattr l hl o hextract]
    exact haccused a ha
  unfold Untainted at hline
  split at hline
  · rename_i channel a
    exact named a rfl (attributed_rejected channel a)
  · rename_i a e
    exact named a rfl (attributed_handshakeFailed hline)
  · exact hline

end

/-! ## Honest addresses -/

/-- The handshake ends, as one of a configured peer. -/
def completed (ctx : Context) : HandshakeOutcome → Bool
  | .received incoming reply => (handshakeFuture ctx incoming reply).isOk
  | .timedOut => false

/-- Every connection of `ip` completes its handshake, and no loop finds the permits
    exhausted. -/
def Completes (ctx : Context) (ip : IpAddr) (s : State) : Action → Prop
  | .accept _ .acquire => s.limiter.concurrent ≠ 0
  | .handshake channel i outcome => ∀ h ∈ (s.acceptor channel).handshakes[i]?,
    h.tcp.peerAddr.ip = ip → completed ctx outcome = true
  | _ => True

/-- A call of `try_acquire` for `ip` finds fewer than `MAX_ATTEMPTS_PER_WINDOW` attempts of
    it within the last `WINDOW`. -/
def FewAttempts (ip : IpAddr) (s : State) : Action → Prop
  | .accept _ (.accept (.ok tcp) now _) =>
    tcp.peerAddr.ip = ip → s.attempts.recent ip now < maxAttemptsPerWindow
  | _ => True

def Honest (ctx : Context) (ip : IpAddr) (s : State) (a : Action) : Prop :=
  Completes ctx ip s a ∧ FewAttempts ip s a

instance (ctx : Context) (ip : IpAddr) (s : State) (a : Action) :
    Decidable (Completes ctx ip s a) :=
  match a with
  | .accept _ .acquire => inferInstanceAs (Decidable (_ ≠ _))
  | .handshake _ _ _ => inferInstanceAs (Decidable (∀ h ∈ (_ : Option Handshake), _))
  | .accept _ (.bind _) | .accept _ (.accept _ _ _) | .tick _ | .listener _ _ | .cleanup _
  | .control _ | .data _ => inferInstanceAs (Decidable True)

instance (ip : IpAddr) (s : State) (a : Action) : Decidable (FewAttempts ip s a) :=
  match a with
  | .accept _ (.accept (.ok _) _ _) => inferInstanceAs (Decidable (_ → _))
  | .accept _ (.accept (.error _) _ _) | .accept _ (.bind _) | .accept _ .acquire | .tick _
  | .listener _ _ | .cleanup _ | .handshake _ _ _ | .control _ | .data _ =>
    inferInstanceAs (Decidable True)

instance (ctx : Context) (ip : IpAddr) (s : State) (a : Action) : Decidable (Honest ctx ip s a) :=
  inferInstanceAs (Decidable (_ ∧ _))

section

variable {ctx : Context} {ip : IpAddr}

theorem accused_relayLine (linkId : String) (result : Except String (UInt64 × UInt64)) :
    accused (relayLine linkId result) = none := by
  cases result <;> rfl

/-- An honest step prints no line that accuses `ip`. -/
theorem accused_step {s s' : State} {a : Action} {es : List Server.Event} (hinv : LimitInv s)
    (hhonest : Honest ctx ip s a) (hst : step ctx s a = some (s', es)) :
    ∀ line ∈ linesOf es, ∀ addr ∈ accused line, addr.ip ≠ ip := by
  obtain ⟨hcompletes, hfew⟩ := hhonest
  have none_accused : (∀ line ∈ linesOf es, accused line = none) →
      ∀ line ∈ linesOf es, ∀ addr ∈ accused line, addr.ip ≠ ip := by
    intro h line hline addr haddr
    rw [h line hline] at haddr
    cases haddr
  cases step_cases hst with
  | tick hle => exact none_accused (by simp [linesOf])
  | listener hc => exact none_accused (by cases hc <;> simp [linesOf, Server.Event.line, accused])
  | cleanup hc => exact none_accused (by cases hc <;> simp [linesOf, Server.Event.line, accused])
  | control hc =>
    exact none_accused (by cases hc <;> simp [linesOf, endSession, Server.Event.line, accused])
  | data hc =>
    refine none_accused ?_
    cases hc with
    | relayEnded _ => simp [linesOf, Server.Event.line, accused_relayLine]
    | _ => simp [linesOf, Server.Event.line, accused]
  | @handshake channel i outcome _ _ hc =>
    cases hc with
    | timedOut _ _ _ =>
      refine none_accused ?_
      cases channel <;> simp [linesOf, Server.Event.line, accused, Channel.handshakeTimedOut]
    | matched _ _ _ _ _ => exact none_accused (by simp [linesOf, Server.Event.line])
    | @failed h incoming reply e _ hi he _ =>
      -- the handshake did not complete, so it is not one of `ip`
      intro line hline addr haddr heq
      obtain rfl : line = Channel.handshakeFailed channel h.tcp.peerAddr e := by
        simpa [linesOf, Server.Event.line] using hline
      have hip : h.tcp.peerAddr.ip = ip := by
        cases channel <;> simp_all [accused, Channel.handshakeFailed]
      have hok := hcompletes h (by simp [hi]) hip
      simp [completed, he, Except.isOk, Except.toBool] at hok
  | @accept channel _ _ _ hc =>
    cases hc with
    | bindFailed _ | bound _ | acceptFailed _ | recorded _ _ _ _ | acquired _ _ _ =>
      exact none_accused (by simp [linesOf, Server.Event.line, accused])
    | noPermit _ h0 => exact absurd h0 hcompletes
    | @refused tcp now now' l _ hnow hnow' hr =>
      intro line hline addr haddr heq
      obtain rfl : line = .rejected channel tcp.peerAddr := by
        simpa [linesOf, Server.Event.line] using hline
      obtain rfl : tcp.peerAddr = addr := by simpa [accused] using haddr
      have hlt := hfew heq
      have hle := (hinv.tracks.refuses_iff hnow tcp.peerAddr.ip now').mp (by rw [hr])
      rw [heq] at hle
      omega

theorem accused_run {as : List Action} {s : State} {tr : List Server.Event}
    (h : ServerRun ctx (Honest ctx ip) as s tr) :
    ∀ line ∈ linesOf tr, ∀ addr ∈ accused line, addr.ip ≠ ip := by
  obtain ⟨clock, s₀, hstart, hrun⟩ := h
  induction hrun with
  | nil => simp [linesOf]
  | snoc hr hC hst ih =>
    have hinv := limitInv_run ⟨clock, s₀, hstart, hr⟩
    intro line hline
    rw [linesOf, List.filterMap_append] at hline
    rcases List.mem_append.mp hline with hline | hline
    · exact ih line hline
    · exact accused_step hinv hC hst line hline

/-- In a run in which every connection of `ip` completes its handshake, no loop finds the
    permits exhausted, and `ip` stays under `MAX_ATTEMPTS_PER_WINDOW` attempts a `WINDOW`, the
    server refuses no connection of `ip`; and the firewall does not act against `ip` unless
    some line that is not about an offence of `ip` reads as one. -/
theorem honest_not_banned (digits : DigitClass) (p : Palette) {as : List Action} {s : State}
    {tr : List Server.Event} (h : ServerRun ctx (Honest ctx ip) as s tr) :
    (∀ channel tcp calledAt prior, .rejected channel tcp calledAt prior ∈ tr →
      tcp.peerAddr.ip ≠ ip) ∧
    ((∀ line ∈ linesOf tr, Untainted digits p ip line) →
      ∀ cfg rs tracker dtr,
        (∀ r ∈ rs, ∃ line ∈ linesOf tr, (r.ip, r.offense) ∈ offenses digits (line.render p)) →
        DaemonRun cfg rs tracker dtr → ∀ e ∈ dtr, e.target ≠ some ip) := by
  have haccused := accused_run h
  refine ⟨fun channel tcp calledAt prior hmem => ?_, fun huntainted cfg rs tracker dtr hrs hrun e
    he htarget => ?_⟩
  · have hline : LogLine.rejected channel tcp.peerAddr ∈ linesOf tr :=
      List.mem_filterMap.mpr ⟨_, hmem, rfl⟩
    exact haccused _ hline _ rfl
  · obtain ⟨r, hr, rfl⟩ := target_of_run hrun e he ip htarget
    obtain ⟨line, hline, ho⟩ := hrs r hr
    exact offense_ne (huntainted line hline) (haccused line hline) _ ho rfl

end

/-! ## Ten connections of bob, and one more -/

/-- `n` data connections of bob, one every second. Each completes its handshake. -/
def bobBusy (n : ℕ) : List Action :=
  bindAll ++ ((List.range n).map fun k => connect .data bobTcp bobKey (k * 10 ^ 9)).flatten

theorem honest_not_banned_bob :
    ∃ s tr, ServerRun exampleContext (Honest exampleContext bobTcp.peerAddr.ip) (bobBusy 10) s tr ∧
      (tr.filterMap fun | .matched _ stream _ => some stream.tcp | _ => none) =
        List.replicate 10 bobTcp ∧
      ∀ channel tcp calledAt prior, .rejected channel tcp calledAt prior ∈ tr →
        tcp.peerAddr.ip ≠ bobTcp.peerAddr.ip := by
  obtain ⟨s, tr, hrun, hmatched⟩ : ∃ s tr,
      ServerRun exampleContext (Honest exampleContext bobTcp.peerAddr.ip) (bobBusy 10) s tr ∧
        (tr.filterMap fun | .matched _ stream _ => some stream.tcp | _ => none) =
          List.replicate 10 bobTcp :=
    exists_guarded_run 0 (by decide +kernel) (by decide +kernel)
  exact ⟨s, tr, hrun, hmatched, (honest_not_banned .basic .plain hrun).1⟩

theorem busyClient_banned :
    (∃ s tr, ServerRun exampleContext (Completes exampleContext bobTcp.peerAddr.ip)
        (bobBusy 10 ++ [.accept .data (.accept (.ok bobTcp) (10 * 10 ^ 9) (10 * 10 ^ 9))]) s tr ∧
      (tr.filterMap fun | .rejected _ tcp _ _ => some tcp | _ => none) = [bobTcp] ∧
      .rejected .data bobTcp.peerAddr ∈ linesOf tr) ∧
    offenses .basic ((LogLine.rejected .data bobTcp.peerAddr).render .plain) =
      [(bobTcp.peerAddr.ip, .rateLimited)] ∧
    ∃ tracker, DaemonRun {} [⟨bobTcp.peerAddr.ip, .rateLimited, 10 * 10 ^ 9, .ok ()⟩] tracker
      [.banned bobTcp.peerAddr.ip 3600 .rateLimited] := by
  refine ⟨exists_guarded_run 0 (by decide +kernel) (by decide +kernel), by decide +kernel, _,
    run_of_exec rfl⟩

end Ghostport.Firewall
