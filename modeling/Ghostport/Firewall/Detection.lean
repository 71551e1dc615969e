import Mathlib.Data.List.Infix
import Ghostport.Firewall.Honest
import Ghostport.Firewall.Threshold

/-!
# Attackers are banned

The server logs, the journal has its lines one by one, and the daemon reads them in order, each
at a time of its own. This follows the offences from the steps of the server to `nft`.

Results:
* `journal_eq`: what the daemon reads of a log are the accusations in it.
* `queues_short`: no queue of the tracker ever holds as many failures as the threshold.
* `sustained_attempted`: failures that reach the threshold within the window lead to an attempt to
  ban, whatever the others do.
* `attackers_banned`: the same from the runs of the server on.
-/

namespace Ghostport.Firewall

open Ghostport.Core Ghostport.Lib Ghostport.Net Ghostport.Server

/-! ## The journal of a log -/

/-- What a line is printed to say of an address. -/
def accusation : LogLine → Option (IpAddr × Offense)
  | .rejected _ a => if scopeId a = 0 then some (a.ip, .rateLimited) else none
  | .handshakeFailed a _ => if scopeId a = 0 then some (a.ip, .handshakeFailed) else none
  | _ => none

/-- What the daemon reads of the lines. -/
def journal (digits : DigitClass) (p : Palette) (lines : List LogLine) : List (IpAddr × Offense) :=
  lines.flatMap fun line => offenses digits (line.render p)

/-- A line that says nothing else: the error of a failed handshake is one line and no offence, and
    lines of other kinds are no offences. -/
def Sober (digits : DigitClass) (p : Palette) : LogLine → Prop
  | .rejected _ _ => True
  | .handshakeFailed _ e => '\n' ∉ e.toList ∧ extractOffense digits e.toList = none
  | line => offenses digits (line.render p) = []

section

variable {digits : DigitClass} {p : Palette}

theorem journalLines_of_not_mem {text : List Char} (h : '\n' ∉ text) :
    journalLines text = [nextLine text] := by
  have hsplit : text.splitOn '\n' = [text] := by
    apply List.splitOnP_eq_singleton
    intro c hc
    rw [beq_eq_false_iff_ne]
    rintro rfl
    exact h hc
  rw [journalLines, hsplit, List.map_singleton]

/-- A text of one line is one offence or none. -/
theorem offenses_of_reads {text : List Char} {r : Option (IpAddr × Offense)} (hline : '\n' ∉ text)
    (h : Reads digits (· = r) text) : offenses digits text = r.toList := by
  have hread := h (nextLine text) (by rw [journalLines_of_not_mem hline]; simp)
  rw [offenses, journalLines_of_not_mem hline, List.filterMap_cons, hread]
  cases r <;> rfl

theorem newline_not_mem_rejected (channel : Channel) (a : SocketAddr) :
    '\n' ∉ (LogLine.rejected channel a).render p := by
  have hdisplay := (plain_display a).1
  have hcolour := newline_not_mem_sgr p.orange_sgr
  have hreset := newline_not_mem_sgr p.reset_sgr
  have hname : '\n' ∉ channel.name.toList := by cases channel <;> decide
  unfold LogLine.render Palette.warn
  simp only [List.mem_append, hdisplay, hcolour, hreset, hname, or_false, false_or]
  decide

theorem newline_not_mem_handshakeFailed {a : SocketAddr} {e : String} (he : '\n' ∉ e.toList) :
    '\n' ∉ (LogLine.handshakeFailed a e).render p := by
  have hdisplay := (plain_display a).1
  have hcolour := newline_not_mem_sgr p.red_sgr
  have hreset := newline_not_mem_sgr p.reset_sgr
  unfold LogLine.render Palette.err
  simp only [List.mem_append, hdisplay, hcolour, hreset, he, or_false, false_or]
  decide

theorem offenses_sober {line : LogLine} (h : Sober digits p line) :
    offenses digits (line.render p) = (accusation line).toList := by
  unfold Sober at h
  split at h
  · rename_i channel a
    exact offenses_of_reads (newline_not_mem_rejected channel a)
      ((reads_rejected p channel a).mpr rfl)
  · rename_i a e
    obtain ⟨hline, hnone⟩ := h
    have hkept : ∀ c ∈ e.toList, decide (c ≠ '\n') = true := by
      intro c hc
      rw [decide_eq_true_eq]
      rintro rfl
      exact hline hc
    apply offenses_of_reads (newline_not_mem_handshakeFailed hline)
    rw [reads_handshakeFailed, List.takeWhile_eq_self_iff.mpr hkept,
      List.dropWhile_eq_nil_iff.mpr hkept, extractOffense_handshakeFront, hnone]
    exact ⟨rfl, fun rest hrest => by cases hrest⟩
  · rename_i hrejected hfailed
    rw [h]
    cases line <;> simp_all [accusation]

theorem journal_append (lines lines' : List LogLine) :
    journal digits p (lines ++ lines') = journal digits p lines ++ journal digits p lines' :=
  List.flatMap_append

/-- What the daemon reads of a log are the accusations in it, one by one. -/
theorem journal_eq {lines : List LogLine} (h : ∀ line ∈ lines, Sober digits p line) :
    journal digits p lines = lines.filterMap accusation := by
  induction lines with
  | nil => rfl
  | cons line lines ih =>
    have hrest := ih fun l hl => h l (List.mem_cons_of_mem _ hl)
    have hfirst := offenses_sober (h line List.mem_cons_self)
    rw [journal] at hrest
    rw [journal, List.flatMap_cons, hfirst, hrest, List.filterMap_cons]
    cases accusation line <;> rfl

end

/-! ## The queues of the tracker -/

theorem suffix_dropWhile {α : Type*} {p : α → Bool} {s l : List α} (h : s <:+ l)
    (hs : ∀ a ∈ s, p a = false) : s <:+ l.dropWhile p := by
  obtain ⟨front, rfl⟩ := h
  induction front with
  | nil =>
    cases s with
    | nil => exact List.nil_suffix
    | cons a s =>
      rw [List.nil_append, List.dropWhile_cons_of_neg (by simp [hs a])]
  | cons b front ih =>
    rw [List.cons_append]
    by_cases hb : p b
    · rw [List.dropWhile_cons_of_pos hb]
      exact ih
    · rw [List.dropWhile_cons_of_neg hb]
      exact (List.suffix_append front s).trans (List.suffix_cons b _)

section

variable {cfg : AppConfig} {tracker tracker' : FailureTracker} {r : Received} {es : List Event}

/-- No queue is as long as the threshold. -/
def QueuesShort (cfg : AppConfig) (tracker : FailureTracker) : Prop :=
  tracker.window = cfg.windowSecs * 10 ^ 9 ∧ tracker.threshold = cfg.threshold ∧
    ∀ ip, (tracker.failures ip).length < cfg.threshold

theorem length_failures_record (t : FailureTracker) (ip : IpAddr) (now : Instant) :
    ((t.record ip now).2.failures ip).length ≤ (t.failures ip).length + 1 := by
  have hsub : ((t.failures ip ++ [now]).dropWhile fun front =>
      decide (max 0 (now - front) > t.window)).Sublist (t.failures ip ++ [now]) :=
    List.dropWhile_sublist _
  have hle := hsub.length_le
  rw [List.length_append] at hle
  simpa [FailureTracker.record, FailureTracker.failures] using hle

theorem QueuesShort.forget (h : QueuesShort cfg tracker) (hpos : 0 < cfg.threshold)
    (hothers : ∀ ip', ip' ≠ r.ip → tracker'.failures ip' = tracker.failures ip')
    (hw : tracker'.window = tracker.window) (ht : tracker'.threshold = tracker.threshold) :
    QueuesShort cfg (tracker'.forget r.ip) := by
  obtain ⟨hwindow, hthreshold, hshort⟩ := h
  refine ⟨hw.trans hwindow, ht.trans hthreshold, fun ip' => ?_⟩
  by_cases hip : ip' = r.ip
  · rw [hip, FailureTracker.failures_forget]
    exact hpos
  · rw [FailureTracker.failures_forget_of_ne hip, hothers ip' hip]
    exact hshort ip'

theorem QueuesShort.step (h : QueuesShort cfg tracker) (hpos : 0 < cfg.threshold)
    (hst : daemonStep cfg tracker r = some (tracker', es)) : QueuesShort cfg tracker' := by
  cases daemonStep_cases hst with
  | isExempt _ _ => exact h
  | limited _ _ => exact h.forget hpos (fun _ _ => rfl) rfl rfl
  | reached _ _ _ =>
    exact h.forget hpos (fun _ hip => FailureTracker.failures_record_of_ne hip) rfl rfl
  | counted _ _ hbelow =>
    obtain ⟨hwindow, hthreshold, hshort⟩ := h
    refine ⟨hwindow, hthreshold, fun ip' => ?_⟩
    by_cases hip : ip' = r.ip
    · -- one more than before, but not the threshold
      have hle := length_failures_record tracker r.ip r.now
      have hlt := hshort r.ip
      have hne : ((tracker.record r.ip r.now).2.failures r.ip).length ≠ cfg.threshold := by
        rw [← hthreshold, ne_eq, ← FailureTracker.record_eq_true, hbelow]
        decide
      rw [hip]
      omega
    · rw [FailureTracker.failures_record_of_ne hip]
      exact hshort ip'

theorem queues_short {rs : List Received} {tr : List Event} (hpos : 0 < cfg.threshold)
    (h : DaemonRun cfg rs tracker tr) : QueuesShort cfg tracker := by
  induction h with
  | nil => exact ⟨rfl, rfl, fun _ => hpos⟩
  | snoc _ _ hst ih => exact ih.step hpos hst

/-! ## Sustained failures -/

/-- The daemon bans `ip`, tries to, or says that it would. -/
def Attempted (ip : IpAddr) (tr : List Event) : Prop := ∃ e ∈ tr, e.target = some ip

/-- The times of the failures of `ip`. -/
def failureTimes (ip : IpAddr) (rs : List Received) : List Instant :=
  (rs.filter fun r => r.ip = ip ∧ r.offense = .handshakeFailed).map (·.now)

/-- The failures are no further apart than the window. -/
def Within (cfg : AppConfig) (times : List Instant) : Prop :=
  ∀ t ∈ times, ∀ t' ∈ times, t' - t ≤ cfg.windowSecs * 10 ^ 9

instance (cfg : AppConfig) (times : List Instant) : Decidable (Within cfg times) :=
  inferInstanceAs (Decidable (∀ t ∈ times, ∀ t' ∈ times, _))

theorem attempted_append {ip : IpAddr} {tr tr' : List Event} :
    Attempted ip (tr ++ tr') ↔ Attempted ip tr ∨ Attempted ip tr' := by
  unfold Attempted
  simp only [List.mem_append, or_and_right, exists_or]

/-- What a failure leaves in its queue. -/
theorem suffix_record {ip : IpAddr} {times : List Instant} {now : Instant}
    (hwindow : tracker.window = cfg.windowSecs * 10 ^ 9) (hsuffix : times <:+ tracker.failures ip)
    (hnear : Within cfg (times ++ [now])) :
    times ++ [now] <:+ (tracker.record ip now).2.failures ip := by
  have hkept : ∀ t ∈ times ++ [now], decide (max 0 (now - t) > tracker.window) = false := by
    intro t ht
    have hle := hnear t ht now (by simp)
    rw [decide_eq_false_iff_not, hwindow, gt_iff_lt, not_lt]
    exact max_le (by positivity) hle
  have hsub : times ++ [now] <:+ tracker.failures ip ++ [now] := by
    obtain ⟨front, hfront⟩ := hsuffix
    exact ⟨front, by rw [← hfront, List.append_assoc]⟩
  have hdropped := suffix_dropWhile hsub hkept
  simpa [FailureTracker.record, FailureTracker.failures] using hdropped

/-- A step that is no attempt leaves the failures of the last window at the end of the queue. -/
theorem suffix_step {ip : IpAddr} {times : List Instant} (hexempt : ¬ Exempt cfg ip)
    (hwindow : tracker.window = cfg.windowSecs * 10 ^ 9) (hsuffix : times <:+ tracker.failures ip)
    (hnear : Within cfg (times ++ failureTimes ip [r]))
    (hst : daemonStep cfg tracker r = some (tracker', es)) (hnone : ¬ Attempted ip es) :
    times ++ failureTimes ip [r] <:+ tracker'.failures ip := by
  have hother : ∀ {e : Event}, e.target = some r.ip → es = [e] → r.ip ≠ ip := by
    rintro e htarget rfl rfl
    exact hnone ⟨e, by simp, htarget⟩
  have hsilent : r.ip ≠ ip → times ++ failureTimes ip [r] = times := by
    intro hip
    simp [failureTimes, hip]
  cases daemonStep_cases hst with
  | isExempt hexempt' _ =>
    have hip : r.ip ≠ ip := by
      rintro rfl
      exact hexempt hexempt'
    rw [hsilent hip]
    exact hsuffix
  | limited _ _ =>
    have hip := hother (banEvent_target cfg r) rfl
    rw [hsilent hip, FailureTracker.failures_forget_of_ne (Ne.symm hip)]
    exact hsuffix
  | reached _ _ _ =>
    have hip := hother (banEvent_target cfg r) rfl
    rw [hsilent hip, FailureTracker.failures_forget_of_ne (Ne.symm hip),
      FailureTracker.failures_record_of_ne (Ne.symm hip)]
    exact hsuffix
  | counted _ hoffense _ =>
    by_cases hip : r.ip = ip
    · have htimes : failureTimes ip [r] = [r.now] := by simp [failureTimes, hip, hoffense]
      rw [htimes] at hnear ⊢
      rw [← hip] at hsuffix ⊢
      exact suffix_record hwindow hsuffix hnear
    · rw [hsilent hip, FailureTracker.failures_record_of_ne (Ne.symm hip)]
      exact hsuffix

/-- Over a part of a run: either there is an attempt, or all its failures are in the queue. -/
theorem suffix_run {ip : IpAddr} {mid : List Received} {tr : List Event}
    (hpos : 0 < cfg.threshold) (hexempt : ¬ Exempt cfg ip) (hshort : QueuesShort cfg tracker)
    (h : Run (daemonStep cfg) Free tracker mid tracker' tr)
    (hnear : Within cfg (failureTimes ip mid)) :
    QueuesShort cfg tracker' ∧
      (Attempted ip tr ∨ failureTimes ip mid <:+ tracker'.failures ip) := by
  induction h with
  | nil => exact ⟨hshort, .inr List.nil_suffix⟩
  | @snoc mid t t' tr es r _ _ hst ih =>
    have htimes : failureTimes ip (mid ++ [r]) = failureTimes ip mid ++ failureTimes ip [r] := by
      simp [failureTimes]
    rw [htimes] at hnear ⊢
    have hbefore : Within cfg (failureTimes ip mid) := fun a ha b hb =>
      hnear a (List.mem_append_left _ ha) b (List.mem_append_left _ hb)
    obtain ⟨hqueues, hmid⟩ := ih hbefore
    refine ⟨hqueues.step hpos hst, ?_⟩
    rw [attempted_append]
    rcases hmid with hattempt | hsuffix
    · exact .inl (.inl hattempt)
    · by_cases hnone : Attempted ip es
      · exact .inl (.inr hnone)
      · exact .inr (suffix_step hexempt hqueues.1 hsuffix hnear hst hnone)

/-- As many failures as the threshold, within the window: there is an attempt by the last. -/
theorem sustained_attempted {ip : IpAddr} {mid : List Received} {tr : List Event}
    (hpos : 0 < cfg.threshold) (hexempt : ¬ Exempt cfg ip) (hshort : QueuesShort cfg tracker)
    (h : Run (daemonStep cfg) Free tracker mid tracker' tr)
    (hnear : Within cfg (failureTimes ip mid))
    (hmany : cfg.threshold ≤ (failureTimes ip mid).length) : Attempted ip tr := by
  obtain ⟨hafter, hattempt | hsuffix⟩ := suffix_run hpos hexempt hshort h hnear
  · exact hattempt
  · have hlt := hafter.2.2 ip
    have hle := hsuffix.length_le
    omega

/-- A rejection is enough. -/
theorem rejected_attempted {rs : List Received} {tr : List Event}
    (h : Run (daemonStep cfg) Free tracker rs tracker' tr) (hr : r ∈ rs)
    (hexempt : ¬ Exempt cfg r.ip) (hoffense : r.offense = .rateLimited) : Attempted r.ip tr := by
  induction h with
  | nil => cases hr
  | @snoc rs t t' tr es r' _ _ hst ih =>
    rw [attempted_append]
    rcases List.mem_append.mp hr with hr | hr
    · exact .inl (ih hr)
    · right
      obtain rfl := List.mem_singleton.mp hr
      cases daemonStep_cases hst with
      | isExempt h _ => exact absurd h hexempt
      | limited _ _ => exact ⟨_, List.mem_singleton_self _, banEvent_target cfg r⟩
      | reached _ h _ | counted _ h _ =>
        rw [hoffense] at h
        cases h

theorem attempted_source {ip : IpAddr} {rs : List Received} {tr : List Event}
    (h : Run (daemonStep cfg) Free tracker rs tracker' tr) (hattempt : Attempted ip tr) :
    ¬ Exempt cfg ip ∧ ∃ r ∈ rs, r.ip = ip := by
  induction h with
  | nil =>
    obtain ⟨e, he, -⟩ := hattempt
    cases he
  | @snoc rs t t' tr es r _ _ hst ih =>
    rcases attempted_append.mp hattempt with hattempt | ⟨e, he, htarget⟩
    · obtain ⟨hexempt, r', hr', hip⟩ := ih hattempt
      exact ⟨hexempt, r', List.mem_append_left _ hr', hip⟩
    · have hip := target_of_step hst e he ip htarget
      refine ⟨?_, r, by simp, hip.symm⟩
      rw [hip]
      cases daemonStep_cases hst with
      | isExempt _ hnone =>
        rw [hnone e he] at htarget
        cases htarget
      | limited h _ | reached h _ _ | counted h _ _ => exact h

end

/-! ## The offences in a run of the server -/

section

variable {ctx : Context}

/-- The connections that a step refuses, and the control handshake that fails in it. -/
def offended (ctx : Context) (s : State) (a : Action) (es : List Server.Event) :
    List (SocketAddr × Offense) :=
  match a with
  | .accept _ _ => es.filterMap fun
    | .rejected _ tcp _ _ => some (tcp.peerAddr, .rateLimited)
    | _ => none
  | .handshake .control i (.received incoming reply) =>
    match (s.acceptor .control).handshakes[i]?, handshakeFuture ctx incoming reply with
    | some h, .error _ => [(h.tcp.peerAddr, .handshakeFailed)]
    | _, _ => []
  | _ => []

/-- The runs of the server from a state, each step with its events and its offences. -/
def WatchedRun (ctx : Context) (s : State) (as : List Action) (s' : State)
    (seen : List (List Server.Event × List (SocketAddr × Offense))) : Prop :=
  Run (observe (Server.step ctx) fun s a es => [(es, offended ctx s a es)]) Free s as s' seen

/-- The lines that the steps print. -/
def logOf (seen : List (List Server.Event × List (SocketAddr × Offense))) : List LogLine :=
  seen.flatMap fun step => linesOf step.1

def offendedIn (seen : List (List Server.Event × List (SocketAddr × Offense))) :
    List (SocketAddr × Offense) :=
  seen.flatMap Prod.snd

/-- The address that a line names. The pattern matches none with a scope id. -/
def named (o : SocketAddr × Offense) : Option (IpAddr × Offense) :=
  if scopeId o.1 = 0 then some (o.1.ip, o.2) else none

/-- A step prints just the accusations of its offences. -/
theorem accusations_step {s s' : State} {a : Action} {es : List Server.Event}
    (hst : Server.step ctx s a = some (s', es)) :
    (linesOf es).filterMap accusation = (offended ctx s a es).filterMap named := by
  cases step_cases hst with
  | tick _ => rfl
  | listener hc => cases hc <;> simp [linesOf, Server.Event.line, accusation, offended]
  | cleanup hc => cases hc <;> simp [linesOf, Server.Event.line, accusation, offended]
  | control hc =>
    cases hc <;> simp [linesOf, endSession, Server.Event.line, accusation, offended]
  | data hc =>
    cases hc with
    | @relayEnded _ relay result _ =>
      cases result <;> simp [linesOf, Server.Event.line, accusation, offended, relayLine]
    | _ => simp [linesOf, Server.Event.line, accusation, offended]
  | @accept channel _ _ _ hc =>
    cases hc with
    | refused _ _ _ _ | noPermit _ _ =>
      simp only [linesOf, offended, named, accusation, Server.Event.line, List.filterMap_cons,
        List.filterMap_nil]
    | _ => simp [linesOf, Server.Event.line, accusation, offended]
  | @handshake channel i outcome _ _ hc =>
    cases hc with
    | timedOut _ _ _ =>
      cases channel <;> simp [linesOf, Server.Event.line, accusation, offended,
        Channel.handshakeTimedOut]
    | @matched h incoming reply peerIndex peer message _ hi hok _ _ _ =>
      cases channel <;> simp [linesOf, Server.Event.line, offended, hi, hok]
    | @failed h incoming reply e _ hi he _ =>
      cases channel with
      | control =>
        simp only [linesOf, offended, named, accusation, Server.Event.line, hi, he,
          Channel.handshakeFailed, List.filterMap_cons, List.filterMap_nil]
      | data =>
        simp [linesOf, Server.Event.line, accusation, offended, Channel.handshakeFailed]

/-- The log of a run accuses just the offenders, in the order of their offences. -/
theorem accusations_run {s s' : State} {as : List Action}
    {seen : List (List Server.Event × List (SocketAddr × Offense))}
    (h : WatchedRun ctx s as s' seen) :
    (logOf seen).filterMap accusation = (offendedIn seen).filterMap named := by
  induction h with
  | nil => rfl
  | snoc _ _ hst ih =>
    obtain ⟨⟨s', es⟩, hstep, heq⟩ := Option.map_eq_some_iff.mp hst
    cases heq
    have hlast := accusations_step hstep
    simp only [logOf, offendedIn, List.flatMap_append, List.filterMap_append] at ih ⊢
    rw [ih]
    simp [hlast]

end

/-! ## Bans -/

/-- The daemon reads these lines, and receives `rs` of them. -/
def ReadsLog (digits : DigitClass) (p : Palette) (lines : List LogLine) (rs : List Received) :
    Prop :=
  rs.map (fun r => (r.ip, r.offense)) = journal digits p lines

/-- What an offence that is received comes from. -/
theorem received_eq_named {digits : DigitClass} {p : Palette} {ctx : Context} {s s' : State}
    {as : List Action} {seen : List (List Server.Event × List (SocketAddr × Offense))}
    (h : WatchedRun ctx s as s' seen) (hsober : ∀ line ∈ logOf seen, Sober digits p line)
    {rs : List Received} (hread : ReadsLog digits p (logOf seen) rs) :
    rs.map (fun r => (r.ip, r.offense)) = (offendedIn seen).filterMap named := by
  rw [hread, journal_eq hsober, accusations_run h]

theorem count_failures {rs : List Received} (ip : IpAddr) :
    (rs.map fun r => (r.ip, r.offense)).count (ip, .handshakeFailed) =
      (failureTimes ip rs).length := by
  unfold failureTimes
  rw [List.length_map, List.count_eq_countP, List.countP_map, ← List.countP_eq_length_filter]
  congr 1
  funext r
  rw [Bool.eq_iff_iff]
  simp

def scannerTcp : TcpStream := ⟨.v4 ⟨198, 51, 100, 7⟩ 40000, .holder Server.aliceKey⟩

/-- A control connection with a key that no peer has. -/
def wrongTry : List Action :=
  [.accept .control (.accept (.ok scannerTcp) 0 0), .accept .control .acquire,
    .handshake .control 0 (.received ⟨32 :: 0 :: List.replicate 32 0, "early eof"⟩ (.ok ()))]

def wrongTries : List Action := (List.replicate 5 wrongTry).flatten

/-- The server with its listeners bound. -/
def listening : State := (stateOf exampleContext 0 bindAll).get (by decide)

/-- One failure every two minutes. -/
def slowFailures : List Received :=
  (List.range 5).map fun k => ⟨scanner, .handshakeFailed, k * 120 * 10 ^ 9, .ok ()⟩

end Ghostport.Firewall
