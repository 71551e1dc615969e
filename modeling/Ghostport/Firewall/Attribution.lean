import Ghostport.Firewall.Reading
import Ghostport.Server.Cases

/-!
# Whom the offences of a data connection name

What the server logs about an authenticated data connection repeats texts of the peer and
of the operator. The rest of the logged line does not matter: its offences are those of the
repeated text alone.

Results:
* `attributed_iff`: exactly when each offence in a line that is logged for a data
  connection is one of the address it came from.
* `forgedHello_banned`: a `StreamHello` that gets another address banned.
-/

namespace Ghostport.Firewall

open Ghostport.Core Ghostport.Lib Ghostport.Net

/-- Each journal line of the text yields no offence, or one of `ip`. -/
def Attributed (digits : DigitClass) (ip : IpAddr) (text : List Char) : Prop :=
  ∀ l ∈ journalLines text, ∀ o ∈ extractOffense digits l, o.1 = ip

instance (digits : DigitClass) (ip : IpAddr) (text : List Char) :
    Decidable (Attributed digits ip text) :=
  inferInstanceAs (Decidable (∀ l ∈ journalLines text, ∀ o ∈ extractOffense digits l, o.1 = ip))

theorem attributed_iff_reads {digits : DigitClass} {ip : IpAddr} {text : List Char} :
    Attributed digits ip text ↔ Reads digits (fun r => ∀ o ∈ r, o.1 = ip) text :=
  Iff.rfl

/-! ## The lines of a data connection -/

/-- Where the connection that a step of `handle_data_connection` is about comes from. -/
def sourceOf (s : Server.State) : Server.DataAction → Option SocketAddr
  | .hello i _ => s.data.hellos[i]?.map (·.tunnel.tcp.peerAddr)
  | .connect i _ => s.data.connecting[i]?.map (·.tunnel.tcp.peerAddr)
  | .relayEnd i _ => s.data.relays[i]?.map (·.tunnel.tcp.peerAddr)

/-- What a refusal repeats: the link id, after the name of the peer if the peer does not
    have that link. -/
def repeatedHello (peer : ResolvedPeer) (hello : StreamHello) : List Char :=
  if hello.linkId ∉ peer.links then peer.name.toList ++ '"' :: hello.linkId.toList
  else hello.linkId.toList

/-- What the line that a step logs repeats of its inputs: the text of an error, what a
    hello and the config say, and for the end of a relay all that follows the bracket before
    the link id. -/
def repeated (s : Server.State) : Server.DataAction → List Char
  | .hello _ .timedOut => []
  | .hello _ (.failed e) => e.toList
  | .hello i (.received hello) =>
    match s.data.hellos[i]? with
    | none => []
    | some h => repeatedHello h.tunnel.peer hello
  | .connect _ (.error e) => e.toList
  | .connect _ (.ok ()) => []
  | .relayEnd i result =>
    match s.data.relays[i]? with
    | none => []
    | some relay =>
      relay.linkId.toList ++
        match result with
        | .ok (aToB, bToA) => "] stream closed (".toList ++ decimal aToB.toNat ++
            " bytes forward, ".toList ++ decimal bToA.toNat ++ " bytes back)".toList
        | .error e => "] stream ended with an error: ".toList ++ e.toList

theorem repeated_received {s : Server.State} {i : ℕ} {h : Server.AwaitingHello}
    {hello : StreamHello} (hi : s.data.hellos[i]? = some h) :
    repeated s (.hello i (.received hello)) = repeatedHello h.tunnel.peer hello := by
  simp [repeated, hi]

theorem repeated_relayEnd {s : Server.State} {i : ℕ} {relay : Server.Relay}
    {result : Except String (UInt64 × UInt64)} (hi : s.data.relays[i]? = some relay) :
    repeated s (.relayEnd i result) = relay.linkId.toList ++
      match result with
      | .ok (aToB, bToA) => "] stream closed (".toList ++ decimal aToB.toNat ++
          " bytes forward, ".toList ++ decimal bToA.toNat ++ " bytes back)".toList
      | .error e => "] stream ended with an error: ".toList ++ e.toList := by
  simp only [repeated, hi]

section

variable {digits : DigitClass} {Q : Option (IpAddr × Offense) → Prop} (p : Palette)

/-- A text between quotation marks. -/
theorem reads_quoted {front back x : List Char} (hfront : Plain front) (hs : Silent front)
    (hback : Plain back) (hb : Silent back) :
    Reads digits Q (front ++ ['"'] ++ x ++ '"' :: back) ↔ Reads digits Q x := by
  have hquote : Silent (front ++ ['"']) := hs.append (by decide)
  have hplain : Plain (front ++ ['"']) := hfront.append (by decide)
  rw [reads_quote_end hback hb, reads_silent hplain hquote]

theorem reads_refuse {ctx : Server.Context} {stats : String → Option LinkStats}
    {peer : ResolvedPeer} {hello : StreamHello} {e : String}
    (h : Server.checkHello ctx stats peer hello = .refuse e) :
    Reads digits Q e.toList ↔ Reads digits Q (repeatedHello peer hello) := by
  unfold Server.checkHello at h
  unfold repeatedHello
  split at h
  · rename_i hlinks
    cases h
    have hmiddle := @reads_quotes digits Q
      " is not authorized for link ".toList (by decide) (by decide) peer.name.toList
      hello.linkId.toList
    have htext : ("peer \"" ++ peer.name ++ "\" is not authorized for link \"" ++ hello.linkId ++
        "\"").toList = "peer \"".toList ++ (peer.name.toList ++
          ('"' :: " is not authorized for link ".toList ++ ['"']) ++ hello.linkId.toList) ++
            ['"'] := by
      simp
    rw [if_pos hlinks, htext, reads_quote_end (by decide) (by decide),
      reads_silent (by decide) (by decide), hmiddle]
    simp
  · rename_i hlinks
    rw [if_neg hlinks]
    split at h
    · cases h
      have htext : ("unknown link id \"" ++ hello.linkId ++ "\"").toList =
          "unknown link id ".toList ++ ['"'] ++ hello.linkId.toList ++ '"' :: [] := by
        simp
      rw [htext, reads_quoted (by decide) (by decide) (by decide) (by decide)]
    · rename_i link hfind
      have hid : link.id = hello.linkId := by simpa using List.find?_some hfind
      split at h
      · cases h
        have htext : ("link \"" ++ link.id ++
            "\" isn't a TCP link (nothing should ever dial the TCP data channel for it)").toList =
            "link ".toList ++ ['"'] ++ link.id.toList ++ '"' ::
              " isn't a TCP link (nothing should ever dial the TCP data channel for it)".toList := by
          simp
        rw [htext, reads_quoted (by decide) (by decide) (by decide) (by decide), hid]
      · split at h
        · cases h
        · split at h
          · split at h <;> cases h
          · cases h
          · cases h
            have htext : ("link \"" ++ link.id ++
                "\" mode/stream_id mismatch (protocol error)").toList =
                "link ".toList ++ ['"'] ++ link.id.toList ++ '"' ::
                  " mode/stream_id mismatch (protocol error)".toList := by
              simp
            rw [htext, reads_quoted (by decide) (by decide) (by decide) (by decide), hid]

theorem reads_unknownStream (streamId : UInt64) (linkId : String) :
    Reads digits Q (Server.unknownStream streamId linkId).toList ↔
      Reads digits Q linkId.toList := by
  have hsilent : Silent ("stream ".toList ++ decimal streamId.toNat ++ " for link ".toList) :=
    Silent.append (Silent.append (by decide) (silent_decimal _)) (by decide)
  have hplain : Plain ("stream ".toList ++ decimal streamId.toNat ++ " for link ".toList) :=
    Plain.append (Plain.append (by decide) (plain_decimal _)) (by decide)
  have htext : (Server.unknownStream streamId linkId).toList =
      "stream ".toList ++ decimal streamId.toNat ++ " for link ".toList ++ ['"'] ++
        linkId.toList ++ '"' :: " is unknown or already timed out".toList := by
    simp [Server.unknownStream]
  rw [htext, reads_quoted hplain hsilent (by decide) (by decide)]

/-- The bracket and the colour before a link id. -/
theorem reads_tag (x : List Char) :
    Reads digits Q ("ghostport: ".toList ++ ("[".toList ++ (p.cyan ++ x))) ↔
      Reads digits Q x := by
  rw [reads_silent (by decide) (by decide), reads_silent (by decide) (by decide),
    reads_sgr p.cyan_sgr]

theorem reads_streamClosed (linkId : String) (aToB bToA : UInt64) :
    Reads digits Q ((Server.LogLine.streamClosed linkId aToB bToA).render p) ↔
      Reads digits Q (linkId.toList ++ ("] stream closed (".toList ++ decimal aToB.toNat ++
        " bytes forward, ".toList ++ decimal bToA.toNat ++ " bytes back)".toList)) := by
  have hbracket := @reads_bracket digits Q _ _ [] p.reset_sgr
    isSgr_nil (by decide) linkId.toList (" stream closed (".toList ++ decimal aToB.toNat ++
      " bytes forward, ".toList ++ decimal bToA.toNat ++ " bytes back)".toList)
  have htext : (Server.LogLine.streamClosed linkId aToB bToA).render p =
      "ghostport: ".toList ++ ("[".toList ++ (p.cyan ++ (linkId.toList ++
        (p.reset ++ [']'] ++ []) ++ (" stream closed (".toList ++ decimal aToB.toNat ++
          " bytes forward, ".toList ++ decimal bToA.toNat ++ " bytes back)".toList)))) := by
    have hrender : (Server.LogLine.streamClosed linkId aToB bToA).render p =
        "ghostport: ".toList ++ ("[".toList ++ (p.cyan ++ linkId.toList ++ p.reset) ++
          "]".toList) ++ " stream closed (".toList ++ decimal aToB.toNat ++
            " bytes forward, ".toList ++ decimal bToA.toNat ++ " bytes back)".toList := rfl
    rw [hrender]
    simp
  rw [htext, reads_tag, hbracket, List.append_assoc]
  exact Iff.of_eq (by simp)

theorem reads_streamError (linkId e : String) :
    Reads digits Q ((Server.LogLine.streamError linkId e).render p) ↔
      Reads digits Q (linkId.toList ++
        ("] stream ended with an error: ".toList ++ e.toList)) := by
  have hbracket := @reads_bracket digits Q _ _ [' '] p.reset_sgr
    p.red_sgr (by decide) linkId.toList ("stream ended with an error: ".toList ++ e.toList)
  have htext : (Server.LogLine.streamError linkId e).render p =
      "ghostport: ".toList ++ ("[".toList ++ (p.cyan ++ (linkId.toList ++
        (p.reset ++ (']' :: [' ']) ++ p.red) ++
          ("stream ended with an error: ".toList ++ e.toList)))) ++ p.reset := by
    have hrender : (Server.LogLine.streamError linkId e).render p =
        "ghostport: ".toList ++ ("[".toList ++ (p.cyan ++ linkId.toList ++ p.reset) ++
          "]".toList) ++ " ".toList ++ (p.red ++ ("stream ended with an error: ".toList ++
            e.toList) ++ p.reset) := rfl
    rw [hrender]
    simp
  rw [htext, reads_sgr_end p.reset_sgr, reads_tag, hbracket]
  simp

end

/-! ## Results -/

/-- Whatever the settings, the daemon bans no other address for what the text says. -/
def BansOnly (digits : DigitClass) (ip : IpAddr) (text : List Char) : Prop :=
  ∀ cfg rs tracker tr, (∀ r ∈ rs, (r.ip, r.offense) ∈ offenses digits text) →
    DaemonRun cfg rs tracker tr → ∀ e ∈ tr, ∀ target ∈ e.target, target = ip

section

variable {digits : DigitClass} {ip : IpAddr}

theorem bansOnly_of_attributed {text : List Char} (h : Attributed digits ip text) :
    BansOnly digits ip text := by
  intro cfg rs tracker tr hrs hrun e he target htarget
  obtain ⟨r, hr, rfl⟩ := target_of_run hrun e he target htarget
  obtain ⟨l, hl, hextract⟩ := List.mem_filterMap.mp (hrs r hr)
  exact h l hl _ hextract

/-- Of the line of a step the daemon reads the text that it repeats. -/
theorem reads_line (digits : DigitClass) (p : Palette) {ctx : Server.Context}
    {s s' : Server.State} {a : Server.DataAction} {es : List Server.Event}
    (hst : Server.handleDataConnection ctx s a = some (s', es)) {line : Server.LogLine}
    (hline : line ∈ Server.linesOf es) : ∃ addr, sourceOf s a = some addr ∧
      ∀ Q, Reads digits Q (line.render p) ↔ Reads digits Q (repeated s a) := by
  unfold Server.linesOf at hline
  cases Server.handleDataConnection_cases hst with
  | @helloTimedOut i h hi _ =>
    obtain rfl : line = _ := by simpa [Server.Event.line] using hline
    refine ⟨h.tunnel.tcp.peerAddr, by simp [sourceOf, hi], fun Q => ?_⟩
    have hfixed : Plain "peer completed the handshake but never sent a StreamHello".toList ∧
        Silent "peer completed the handshake but never sent a StreamHello".toList := by
      decide
    have hsilent := @reads_silent digits Q _ hfixed.1 hfixed.2 []
    rw [List.append_nil] at hsilent
    exact (reads_dataConnection p _ _).trans hsilent
  | @helloFailed i h e hi =>
    obtain rfl : line = _ := by simpa [Server.Event.line] using hline
    refine ⟨h.tunnel.tcp.peerAddr, by simp [sourceOf, hi], fun Q => ?_⟩
    exact reads_dataConnection p _ _
  | @refused i h hello e hi hverdict =>
    obtain rfl : _ = line := by simpa [Server.Event.line] using hline
    refine ⟨h.tunnel.tcp.peerAddr, by simp [sourceOf, hi], fun Q => ?_⟩
    rw [repeated_received hi]
    exact (reads_dataConnection p _ _).trans (reads_refuse hverdict)
  | @unknown i h hello link streamId hi hverdict _ =>
    obtain rfl : _ = line := by simpa [Server.Event.line] using hline
    refine ⟨h.tunnel.tcp.peerAddr, by simp [sourceOf, hi], fun Q => ?_⟩
    obtain ⟨hlinks, hfind, -⟩ := Server.checkHello_claim_iff.mp hverdict
    have hid : link.id = hello.linkId := by simpa using List.find?_some hfind
    rw [repeated_received hi, repeatedHello, if_neg (not_not.mpr hlinks), ← hid]
    exact (reads_dataConnection p _ _).trans (reads_unknownStream _ _)
  | @connectFailed i relay e hi =>
    obtain rfl : line = _ := by simpa [Server.Event.line] using hline
    refine ⟨relay.tunnel.tcp.peerAddr, by simp [sourceOf, hi], fun Q => ?_⟩
    exact reads_dataConnection p _ _
  | @relayEnded i relay result hi =>
    obtain rfl : _ = line := by simpa [Server.Event.line] using hline
    refine ⟨relay.tunnel.tcp.peerAddr, by simp [sourceOf, hi], fun Q => ?_⟩
    rw [repeated_relayEnd hi]
    cases result with
    | error e => exact reads_streamError p _ _
    | ok n => exact reads_streamClosed p _ _ _
  | panicked _ _ | dialed _ _ _ | claimed _ _ _ _ _ | connected _ _ =>
    simp [Server.Event.line] at hline

/-- Every line that the server logs for a data connection comes from an address; the
    offences in it are all of that address, and it leads to no ban of another, exactly if
    the text that the line repeats, read by itself, yields no offence of another address. -/
theorem attributed_iff (digits : DigitClass) (p : Palette) {ctx : Server.Context}
    {s s' : Server.State} {a : Server.DataAction} {es : List Server.Event}
    (hst : Server.step ctx s (.data a) = some (s', es)) {line : Server.LogLine}
    (hline : line ∈ Server.linesOf es) : ∃ addr, sourceOf s a = some addr ∧
      (Attributed digits addr.ip (line.render p) ∧ BansOnly digits addr.ip (line.render p) ↔
        Attributed digits addr.ip (repeated s a)) := by
  obtain ⟨addr, hsource, hiff⟩ := reads_line digits p hst hline
  refine ⟨addr, hsource, ?_⟩
  rw [@attributed_iff_reads _ _ (repeated s a), ← hiff, ← attributed_iff_reads]
  exact ⟨fun h => h.1, fun h => ⟨h, bansOnly_of_attributed h⟩⟩

end

/-! ## Two hellos of bob for links that are not his -/

def bobTcp : Server.TcpStream := ⟨.v4 ⟨198, 51, 100, 6⟩ 40000, .holder Server.bobKey⟩

/-- The server after bob's handshake. -/
def bobConnects : List Server.Action :=
  Server.bindAll ++ Server.connect .data bobTcp Server.bobKey 0

/-- The state that this run leads to. -/
def bobConnected : Server.State :=
  ((Server.start Server.exampleContext 0).bind fun s =>
    (exec (Server.step Server.exampleContext) s bobConnects).map Prod.fst).get (by decide)

def otherLink : Server.DataAction := .hello 0 (.received ⟨"db", none⟩)

def otherLinkLine : Server.LogLine :=
  .dataConnection bobTcp.peerAddr "peer \"bob\" is not authorized for link \"db\""

theorem attributed_iff_otherLink : ∃ s' es,
    Server.step Server.exampleContext bobConnected (.data otherLink) = some (s', es) ∧
      otherLinkLine ∈ Server.linesOf es ∧
      Attributed .basic bobTcp.peerAddr.ip (otherLinkLine.render .plain) ∧
      BansOnly .basic bobTcp.peerAddr.ip (otherLinkLine.render .plain) := by
  have htrace : ((Server.step Server.exampleContext bobConnected (.data otherLink)).map fun r =>
      Server.linesOf r.2) = some [otherLinkLine] := by decide
  have hsource : sourceOf bobConnected otherLink = some bobTcp.peerAddr := by decide
  have htext : repeated bobConnected otherLink = "bob\"db".toList := by decide
  have hrepeated : Attributed .basic bobTcp.peerAddr.ip (repeated bobConnected otherLink) := by
    rw [htext]
    decide +kernel
  obtain ⟨⟨s', es⟩, hst, hlines⟩ := Option.map_eq_some_iff.mp htrace
  have hline : otherLinkLine ∈ Server.linesOf es := by
    rw [hlines]
    exact List.mem_singleton_self _
  obtain ⟨addr, haddr, hiff⟩ := attributed_iff .basic .plain hst hline
  obtain rfl : bobTcp.peerAddr = addr := Option.some.inj (hsource.symm.trans haddr)
  exact ⟨s', es, hst, hline, hiff.mpr hrepeated⟩

/-- A link id that reads as a rejection of another address. -/
def forgedHello : StreamHello :=
  ⟨"control: rejected 8.8.8.8:1 (too many recent handshake attempts)", none⟩

theorem forgedHello_banned :
    (∃ s tr, Server.ServerRun Server.exampleContext Free
        (bobConnects ++ [.data (.hello 0 (.received forgedHello))]) s tr ∧
      ∃ line ∈ Server.linesOf tr, line = .dataConnection bobTcp.peerAddr
          ("peer \"bob\" is not authorized for link \"" ++ forgedHello.linkId ++ "\"") ∧
        ¬ Attributed .basic bobTcp.peerAddr.ip (line.render .plain) ∧
        offenses .basic (line.render .plain) = [(.v4 ⟨8, 8, 8, 8⟩, .rateLimited)]) ∧
    ∃ tracker, DaemonRun {} [⟨.v4 ⟨8, 8, 8, 8⟩, .rateLimited, 0, .ok ()⟩] tracker
      [.banned (.v4 ⟨8, 8, 8, 8⟩) 3600 .rateLimited] :=
  ⟨Server.exists_run 0 (by decide) (by decide +kernel), _, run_of_exec rfl⟩

end Ghostport.Firewall
