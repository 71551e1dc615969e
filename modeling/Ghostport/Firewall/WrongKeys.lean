import Ghostport.Core.Matching
import Ghostport.Firewall.Attribution

/-!
# Wrong keys and failed handshakes

The detector counts a line `control: handshake with … failed:` as a handshake that "completed
but was cryptographically wrong". The server prints that line for every error of the control
handshake, a connection that is closed before its first byte included, and prints another one
where the same thing happens on the data listener.

Results:
* `causeOf_eq_noMatch_iff`, `causeOf_eq_io_iff`: what the causes say about the bytes.
* `wrongKeyOnly_iff`: exactly when the line that ends a handshake is counted as the detector
  documents it.
* `closedEarly_counted`: a connection that is closed before its first byte is counted.
-/

namespace Ghostport.Firewall

open Ghostport.Core Ghostport.Lib Ghostport.Net

/-! ## How a handshake ends -/

/-- Why the task of a handshake ends. -/
inductive Cause where
  | timedOut
  /-- `MatchError::Io`. -/
  | io (e : String)
  /-- `MatchError::NoMatch`. -/
  | noMatch
  /-- A peer matched, and the second message could not be written. -/
  | reply (e : String)
  | completed
  deriving DecidableEq

def causeOf (ctx : Server.Context) : Server.HandshakeOutcome → Cause
  | .timedOut => .timedOut
  | .received incoming reply =>
    match matchPeer ctx.snow incoming ctx.privateKey ctx.peers with
    | .error (.io e) => .io e
    | .error .noMatch => .noMatch
    | .ok _ =>
      match reply with
      | .error e => .reply e
      | .ok () => .completed

/-- The text of the error, where there is one. -/
def Cause.error : Cause → Option String
  | .io e | .reply e => some e
  | .noMatch => some MatchError.noMatch.display
  | .timedOut | .completed => none

/-- The connection was closed or reset before a whole message, or nothing came in time. -/
def Cause.OfNetwork : Cause → Prop
  | .timedOut | .io _ => True
  | .noMatch | .reply _ | .completed => False

instance (cause : Cause) : Decidable cause.OfNetwork :=
  match cause with
  | .timedOut | .io _ => inferInstanceAs (Decidable True)
  | .noMatch | .reply _ | .completed => inferInstanceAs (Decidable False)

theorem handshakeFuture_error_iff {ctx : Server.Context} {incoming : Incoming}
    {reply : Except String Unit} {e : String} :
    Server.handshakeFuture ctx incoming reply = .error e ↔
      (causeOf ctx (.received incoming reply)).error = some e := by
  unfold Server.handshakeFuture causeOf
  cases hmatch : matchPeer ctx.snow incoming ctx.privateKey ctx.peers with
  | error err => cases err <;> simp [hmatch, Cause.error, MatchError.display]
  | ok r => cases reply <;> simp [hmatch, Cause.error, Except.map]

theorem causeOf_of_ok {ctx : Server.Context} {incoming : Incoming} {reply : Except String Unit}
    {peerIndex : ℕ} (h : Server.handshakeFuture ctx incoming reply = .ok peerIndex) :
    causeOf ctx (.received incoming reply) = .completed := by
  unfold Server.handshakeFuture at h
  unfold causeOf
  cases hmatch : matchPeer ctx.snow incoming ctx.privateKey ctx.peers with
  | error err =>
    rw [hmatch] at h
    cases h
  | ok r =>
    rw [hmatch] at h
    cases reply with
    | error e => cases h
    | ok _ => simp [hmatch]

/-- A whole message has arrived, and no configured peer matches it. -/
theorem causeOf_eq_noMatch_iff {ctx : Server.Context} {incoming : Incoming}
    {reply : Except String Unit} : causeOf ctx (.received incoming reply) = .noMatch ↔
      ∃ message, incoming.message = some message ∧
        matchPeerBytes ctx.snow message ctx.privateKey ctx.peers = .error .noMatch := by
  simp only [causeOf, matchPeer_eq]
  cases hmessage : incoming.message with
  | none => simp
  | some message =>
    cases hmatch : matchPeerBytes ctx.snow message ctx.privateKey ctx.peers with
    | error err => cases err <;> simp [hmatch]
    | ok r => cases reply <;> simp [hmatch]

/-- No whole message has arrived. -/
theorem causeOf_eq_io_iff {ctx : Server.Context} {incoming : Incoming}
    {reply : Except String Unit} {e : String} :
    causeOf ctx (.received incoming reply) = .io e ↔
      incoming.message = none ∧ incoming.fault = e := by
  simp only [causeOf, matchPeer_eq]
  cases hmessage : incoming.message with
  | none => simp
  | some message =>
    unfold matchPeerBytes
    cases hloop : matchPeerLoop ctx.snow message ctx.privateKey 0
        (List.replicate message.length 0) ctx.peers with
    | none => simp [hloop]
    | some r => cases reply <;> simp [hloop]

/-! ## What the detector makes of it -/

/-- What the daemon reads of the lines that a step prints. -/
def offensesOf (digits : DigitClass) (p : Palette) (es : List Server.Event) :
    List (IpAddr × Offense) :=
  (Server.linesOf es).flatMap fun line => offenses digits (line.render p)

/-- The address is counted for a failed handshake exactly if its key was wrong, and what the
    network does is no offence. -/
structure WrongKeyOnly (digits : DigitClass) (p : Palette) (a : SocketAddr) (cause : Cause)
    (es : List Server.Event) : Prop where
  counted : (a.ip, .handshakeFailed) ∈ offensesOf digits p es ↔ cause = .noMatch
  quiet : cause.OfNetwork → offensesOf digits p es = []

instance (digits : DigitClass) (p : Palette) (a : SocketAddr) (cause : Cause)
    (es : List Server.Event) : Decidable (WrongKeyOnly digits p a cause es) :=
  decidable_of_iff (((a.ip, .handshakeFailed) ∈ offensesOf digits p es ↔ cause = .noMatch) ∧
    (cause.OfNetwork → offensesOf digits p es = [])) ⟨fun h => ⟨h.1, h.2⟩, fun h => ⟨h.1, h.2⟩⟩

/-- The line of this listener for a failed handshake has the keyword of the detector, and an
    address that its pattern matches. -/
def Counted (channel : Server.Channel) (a : SocketAddr) : Prop :=
  channel = .control ∧ scopeId a = 0

/-- The first journal line of the text is a rejection. -/
def BeginsRejected (digits : DigitClass) (text : List Char) : Prop :=
  ∃ ip, extractOffense digits (text.takeWhile (· ≠ '\n')) = some (ip, .rateLimited)

/-- A wrong key is told where the line is counted; an error of the connection where it is not,
    and where its own text, read by itself, is no such offence. -/
def Told (digits : DigitClass) (channel : Server.Channel) (a : SocketAddr) : Cause → Prop
  | .timedOut | .completed => True
  | .noMatch => Counted channel a
  | .io e => ¬ Counted channel a ∧ offenses digits e.toList = []
  | .reply e =>
    (Counted channel a → BeginsRejected digits e.toList) ∧
      (a.ip, .handshakeFailed) ∉ offenses digits e.toList

section

variable {digits : DigitClass} {Q : Option (IpAddr × Offense) → Prop} (p : Palette)

/-- A line that is not counted is read as its error is. -/
theorem reads_uncounted {channel : Server.Channel} {a : SocketAddr} (h : ¬ Counted channel a)
    (e : String) : Reads digits Q ((channel.handshakeFailed a e).render p) ↔
      Reads digits Q e.toList := by
  cases channel with
  | data => exact reads_dataConnection p a e
  | control =>
    have hscope : scopeId a ≠ 0 := fun hs => h ⟨rfl, hs⟩
    have hline := @reads_handshakeFailed digits Q p a e
    rw [extractOffense_handshakeFront, if_neg hscope, ← reads_iff_first] at hline
    exact hline

/-- Of a line that is counted the first journal line names the address, unless it has a
    rejection in it. -/
theorem reads_counted {channel : Server.Channel} {a : SocketAddr} (h : Counted channel a)
    (e : String) : Reads digits Q ((channel.handshakeFailed a e).render p) ↔
      Q (match extractOffense digits (e.toList.takeWhile (· ≠ '\n')) with
        | some (ip, .rateLimited) => some (ip, .rateLimited)
        | _ => some (a.ip, .handshakeFailed)) ∧
      ∀ rest, e.toList.dropWhile (· ≠ '\n') = '\n' :: rest → Reads digits Q rest := by
  obtain ⟨rfl, hscope⟩ := h
  have hline := @reads_handshakeFailed digits Q p a e
  rw [extractOffense_handshakeFront, if_pos hscope] at hline
  exact hline

theorem offenses_handshakeTimedOut (channel : Server.Channel) (a : SocketAddr) :
    offenses digits ((channel.handshakeTimedOut a).render p) = [] := by
  rw [offenses_eq_nil_iff]
  cases channel with
  | control => exact (reads_handshakeTimedOut p a).mpr rfl
  | data =>
    have htext := @reads_keywordless digits (· = none) "handshake timed out".toList
      (by decide) (by decide)
    exact (reads_dataConnection p a _).mpr (htext.mpr rfl)

/-- Whatever the cause, the first journal line of a counted line is an offence. -/
theorem offenses_counted {channel : Server.Channel} {a : SocketAddr} (h : Counted channel a)
    (e : String) : offenses digits ((channel.handshakeFailed a e).render p) ≠ [] := by
  rw [Ne, offenses_eq_nil_iff, reads_counted p h]
  rintro ⟨hfirst, -⟩
  split at hfirst <;> cases hfirst

theorem mem_offenses_counted {channel : Server.Channel} {a : SocketAddr} (h : Counted channel a)
    (e : String) :
    (a.ip, .handshakeFailed) ∉ offenses digits ((channel.handshakeFailed a e).render p) ↔
      BeginsRejected digits e.toList ∧ (a.ip, .handshakeFailed) ∉ offenses digits e.toList := by
  rw [not_mem_offenses_iff, not_mem_offenses_iff, reads_counted p h,
    reads_iff_first e.toList]
  unfold BeginsRejected
  split
  · rename_i ip hfirst
    rw [hfirst]
    simp
  · rename_i hnot
    constructor
    · rintro ⟨hfalse, -⟩
      exact absurd rfl hfalse
    · rintro ⟨⟨ip, hfirst⟩, -⟩
      exact absurd hfirst (hnot ip)

theorem mem_offenses_noMatch {channel : Server.Channel} {a : SocketAddr} :
    (a.ip, .handshakeFailed) ∈
        offenses digits ((channel.handshakeFailed a MatchError.noMatch.display).render p) ↔
      Counted channel a := by
  have hplain : Plain MatchError.noMatch.display.toList := by decide
  have hkeywords : ∀ kw ∈ keywords, ¬ kw <:+: MatchError.noMatch.display.toList := by decide
  rw [← not_iff_not, not_mem_offenses_iff]
  by_cases h : Counted channel a
  · have hline : ∀ c ∈ MatchError.noMatch.display.toList, decide (c ≠ '\n') = true :=
      List.all_eq_true.mp (by decide)
    rw [reads_counted p h, List.takeWhile_eq_self_iff.mpr hline,
      extractOffense_keywordless hplain hkeywords]
    simp [h]
  · rw [reads_uncounted p h, reads_keywordless hplain hkeywords]
    simp [h]

theorem offensesOf_print (line : Server.LogLine) :
    offensesOf digits p [.print line] = offenses digits (line.render p) := by
  unfold offensesOf Server.linesOf
  simp [Server.Event.line]

/-- The line that is printed for an error. -/
theorem wrongKeyOnly_failed {channel : Server.Channel} {a : SocketAddr} {cause : Cause}
    {e : String} (he : cause.error = some e) :
    WrongKeyOnly digits p a cause [.print (channel.handshakeFailed a e)] ↔
      Told digits channel a cause := by
  cases cause with
  | timedOut | completed => cases he
  | noMatch =>
    obtain rfl := Option.some.inj he
    constructor
    · intro h
      rw [Told, ← mem_offenses_noMatch p, ← offensesOf_print]
      exact h.counted.mpr rfl
    · intro h
      refine ⟨iff_of_true ?_ rfl, False.elim⟩
      rw [offensesOf_print]
      exact (mem_offenses_noMatch p).mpr h
  | io e =>
    obtain rfl := Option.some.inj he
    constructor
    · intro h
      have hnil := h.quiet trivial
      rw [offensesOf_print] at hnil
      have hnot : ¬ Counted channel a := fun hc => offenses_counted p hc e hnil
      rw [offenses_eq_nil_iff, reads_uncounted p hnot, ← offenses_eq_nil_iff] at hnil
      exact ⟨hnot, hnil⟩
    · rintro ⟨hnot, hnil⟩
      rw [offenses_eq_nil_iff, ← reads_uncounted p hnot, ← offenses_eq_nil_iff,
        ← offensesOf_print] at hnil
      exact ⟨by simp [hnil], fun _ => hnil⟩
  | reply e =>
    obtain rfl := Option.some.inj he
    have hiff : (a.ip, .handshakeFailed) ∉
        offenses digits ((channel.handshakeFailed a e).render p) ↔
          Told digits channel a (.reply e) := by
      unfold Told
      by_cases hc : Counted channel a
      · rw [mem_offenses_counted p hc]
        simp [hc]
      · rw [not_mem_offenses_iff, reads_uncounted p hc, ← not_mem_offenses_iff]
        simp [hc]
    rw [← hiff, ← offensesOf_print]
    constructor
    · intro h hmem
      cases h.counted.mp hmem
    · intro h
      exact ⟨iff_of_false h (by simp), False.elim⟩

end

/-! ## Results -/

/-- The task of a handshake at any state: the line that it prints where it ends is counted as
    documented exactly if the cause is told by it. -/
theorem wrongKeyOnly_iff (digits : DigitClass) (p : Palette) {ctx : Server.Context}
    {s s' : Server.State} {channel : Server.Channel} {i : ℕ} {outcome : Server.HandshakeOutcome}
    {es : List Server.Event}
    (hst : Server.step ctx s (.handshake channel i outcome) = some (s', es)) :
    ∃ h, (s.acceptor channel).handshakes[i]? = some h ∧
      (WrongKeyOnly digits p h.tcp.peerAddr (causeOf ctx outcome) es ↔
        Told digits channel h.tcp.peerAddr (causeOf ctx outcome)) := by
  cases Server.endHandshake_cases hst with
  | @timedOut h _ hi _ _ =>
    refine ⟨h, hi, iff_of_true ?_ trivial⟩
    have hnil : offensesOf digits p [.print (channel.handshakeTimedOut h.tcp.peerAddr)] = [] := by
      rw [offensesOf_print]
      exact offenses_handshakeTimedOut p channel _
    exact ⟨by simp [hnil, causeOf], fun _ => hnil⟩
  | @failed h incoming reply e _ hi he _ =>
    exact ⟨h, hi, wrongKeyOnly_failed p (handshakeFuture_error_iff.mp he)⟩
  | @matched h incoming reply peerIndex peer message _ hi hok _ _ _ =>
    refine ⟨h, hi, ?_⟩
    rw [causeOf_of_ok hok]
    exact iff_of_true
      ⟨by simp [offensesOf, Server.linesOf, Server.Event.line], False.elim⟩ trivial

/-! ## Handshakes of bob -/

/-- The server after a connection of bob has got its permit. -/
def bobWaits (channel : Server.Channel) : List Server.Action :=
  Server.bindAll ++ [.accept channel (.accept (.ok bobTcp) 0 0), .accept channel .acquire]

/-- The state that this run leads to. -/
def bobWaiting : Server.State :=
  (Server.stateOf Server.exampleContext 0 (bobWaits .control)).get (by decide)

/-- A whole message, for a key that no peer has. -/
def wrongKey : Server.HandshakeOutcome :=
  .received ⟨32 :: 0 :: List.replicate 32 0, "early eof"⟩ (.ok ())

/-- A connection that is closed before its first byte. -/
def closedEarly : Server.HandshakeOutcome := .received ⟨[], "early eof"⟩ (.ok ())

theorem wrongKeyOnly_iff_control : ∃ s' es,
    Server.step Server.exampleContext bobWaiting (.handshake .control 0 wrongKey) =
        some (s', es) ∧
      WrongKeyOnly .basic .plain bobTcp.peerAddr .noMatch es := by
  have hsome : (Server.step Server.exampleContext bobWaiting
      (.handshake .control 0 wrongKey)).isSome := by decide
  have hhandshake : (bobWaiting.acceptor .control).handshakes[0]? =
      some ⟨bobTcp, Server.handshakeTimeout⟩ := by decide
  have hcause : causeOf Server.exampleContext wrongKey = .noMatch := by decide
  obtain ⟨⟨s', es⟩, hst⟩ := Option.isSome_iff_exists.mp hsome
  obtain ⟨h, hi, hiff⟩ := wrongKeyOnly_iff .basic .plain hst
  obtain rfl : ⟨bobTcp, Server.handshakeTimeout⟩ = h := Option.some.inj (hhandshake.symm.trans hi)
  rw [hcause] at hiff
  exact ⟨s', es, hst, hiff.mpr ⟨rfl, rfl⟩⟩

/-- A control connection that is closed before its first byte is counted as a wrong key, and a
    data connection with a wrong key is not. -/
theorem closedEarly_counted :
    causeOf Server.exampleContext closedEarly = .io "early eof" ∧
    causeOf Server.exampleContext wrongKey = .noMatch ∧
    (∃ s tr, Server.ServerRun Server.exampleContext Free
        (bobWaits .control ++ [.handshake .control 0 closedEarly]) s tr ∧
      offensesOf .basic .plain tr = [(bobTcp.peerAddr.ip, .handshakeFailed)] ∧
      ¬ WrongKeyOnly .basic .plain bobTcp.peerAddr (.io "early eof") tr) ∧
    ∃ s tr, Server.ServerRun Server.exampleContext Free
        (bobWaits .data ++ [.handshake .data 0 wrongKey]) s tr ∧
      offensesOf .basic .plain tr = [] ∧
      ¬ WrongKeyOnly .basic .plain bobTcp.peerAddr .noMatch tr :=
  ⟨by decide, by decide, Server.exists_run 0 (by decide) (by decide +kernel),
    Server.exists_run 0 (by decide) (by decide +kernel)⟩

end Ghostport.Firewall
